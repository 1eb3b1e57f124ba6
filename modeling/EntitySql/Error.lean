import EntitySql.Operator
import EntitySql.Text.Numeral
/-!
# Errors

What can go wrong with a predicate and with a command, by cause, and the message of each.
-/

namespace EntitySql

/-- Why a predicate has no SQL. -/
inductive PredicateError where
  /-- A method is called on nothing. -/
  | noTarget (method : String)
  /-- A method is not one of the string methods. -/
  | unknownMethod (method : String)
  /-- A method is called on something that is no field. -/
  | targetNotField (method : String)
  /-- A method is called with a number of arguments other than one. -/
  | argumentCount (method : String) (count : Nat)
  /-- An operator has no SQL token. -/
  | unsupportedOperator (op : Operator)
  /-- A field has no column. -/
  | unmappedField (field : String)
  /-- A plain value stands where a condition is needed. -/
  | notAPredicate
  /-- The nesting exceeds the limit. -/
  | tooDeep (limit : Nat)
  deriving DecidableEq, Repr

/-- The message of a predicate error. -/
def PredicateError.message : PredicateError → String
  | noTarget method => "unsupported operation: `" ++ method ++ "` has no invocation target"
  | unknownMethod method => "unsupported operation: `" ++ method ++ "` isn't a supported method"
  | targetNotField method =>
    "unsupported operation: `" ++ method ++ "` must be invoked on a mapped column"
  | argumentCount method count =>
    "unsupported operation: `" ++ method ++ "` takes one argument, got " ++ Numeral.ofNat count
  | unsupportedOperator op => op.name ++ " isn't supported"
  | unmappedField field => "field `" ++ field ++ "` is not mapped to a column"
  | notAPredicate => "expression is not a predicate"
  | tooDeep limit => "predicate nesting exceeds the maximum depth of " ++ Numeral.ofNat limit

/-- Why a command cannot be built, or a result cannot be used. -/
inductive Error where
  | predicate (cause : PredicateError)
  /-- A value is longer than its column allows. -/
  | maxLength (table column : String) (limit actual : Nat)
  /-- A table has no column of the name. -/
  | unknownColumn (table column : String)
  /-- An update sets no column. -/
  | nothingToUpdate (table : String)
  /-- A procedure argument has a name that cannot be written. -/
  | invalidParameterName (name : String)
  /-- A column holds a value of another type. -/
  | conversion (column expected found : String)
  /-- A row lacks a column. -/
  | missingColumn (column : String)
  /-- A result that must have a row has none. -/
  | emptyResult (table : String)
  /-- The database refused a command. -/
  | executor (reason : String)
  deriving DecidableEq, Repr

/-- The message of an error. -/
def Error.message : Error → String
  | predicate cause => cause.message
  | maxLength table column limit actual =>
    table ++ "." ++ column ++ ", exceeds max length of " ++ Numeral.ofNat limit ++
      " (actual length: " ++ Numeral.ofNat actual ++ ")"
  | unknownColumn table column => "table `" ++ table ++ "` has no column `" ++ column ++ "`"
  | nothingToUpdate table => "nothing to update in `" ++ table ++ "`"
  | invalidParameterName name => "invalid parameter name `" ++ name ++ "`"
  | conversion column expected found =>
    "column `" ++ column ++ "`: cannot convert " ++ found ++ " to " ++ expected
  | missingColumn column => "column `" ++ column ++ "` missing from result row"
  | emptyResult table => "`" ++ table ++ "` returned no row"
  | executor reason => "command execution failed: " ++ reason

end EntitySql
