import EntitySql.BoundSql
import EntitySql.Record
import EntitySql.Text.Separated
/-!
# Commands

Complete commands for the entities of a schema, and calls of stored procedures. A command is a head
and a filter: the head binds the written values, and the filter goes on numbering where the head
stopped, so every placeholder of a command is bound once.
-/

namespace EntitySql

/-- Appends a filter to the head of a command, whose context has bound the written values. -/
def BoundSql.ofHead (head : String) (ctx : Context) (filter : Rendering) :
    Except PredicateError BoundSql :=
  match filter.run ctx with
  | (.ok text, ctx) => .ok ⟨head ++ text, ctx.bindings⟩
  | (.error cause, _) => .error cause

namespace Schema

/-! ## Filters -/

/-- Compiles and renders a predicate as the part of a command behind its head: nothing without a
predicate. -/
def filter (s : Schema) (predicate : Option Predicate) (limit : Option Nat) : Rendering :=
  match predicate with
  | none => pure ""
  | some p =>
    match p.compile s.resolver limit with
    | .error cause => throw cause
    | .ok condition => do
      let text ← condition.renderRoot
      return " WHERE " ++ text

/-- Compiles and renders a predicate as a condition of its own. -/
def condition (s : Schema) (predicate : Option Predicate) :
    Except PredicateError (Option BoundSql) :=
  match predicate with
  | none => .ok none
  | some p => do
    let condition ← p.compile s.resolver none
    let sql ← condition.toSql
    return some sql

/-- The command of a head and a filter. -/
def command (s : Schema) (head : String) (ctx : Context) (predicate : Option Predicate)
    (limit : Option Nat) : Except Error BoundSql :=
  (BoundSql.ofHead head ctx (s.filter predicate limit)).mapError .predicate

/-! ## Written values -/

/-- Refuses a value that is longer than its column allows. -/
def checkLength (s : Schema) (column : Column) (value : Value) : Except Error Unit :=
  match column.maxLength, value.length? with
  | some max, some actual =>
    if max < actual then .error (.maxLength s.table column.name max actual) else .ok ()
  | _, _ => .ok ()

/-- A column with its value, if the value fits. -/
def assign (s : Schema) (column : Column) (value : Value) : Except Error (Column × Value) := do
  s.checkLength column value
  return (column, value)

/-- The columns that a record writes, with their values: all but the primary key. -/
def written (s : Schema) (record : Record) : Except Error (List (Column × Value)) :=
  ((s.columns.zip (s.toValues record)).filter fun e => !e.1.isPrimaryKey).mapM fun e =>
    s.assign e.1 e.2

/-- The column that a named value is written to, with the value. -/
def assignNamed (s : Schema) (name : String) (value : Value) : Except Error (Column × Value) :=
  match s.columnNamed? name with
  | none => .error (.unknownColumn s.table name)
  | some column => s.assign column value

/-- The names of columns in brackets, separated by commas. -/
def columnList (columns : List Column) : String :=
  commaSeparated (columns.map fun c => Bracketed.quote c.name)

/-! ## Commands of a schema -/

/-- Selects at most `count` rows with all columns. -/
def selectTop (s : Schema) (count : Nat) (predicate : Option Predicate) (limit : Option Nat) :
    Except Error BoundSql :=
  s.command
    ("SELECT TOP " ++ Numeral.ofNat count ++ " " ++ columnList s.columns ++ " FROM " ++
      Bracketed.quoteObject s.table)
    .empty predicate limit

/-- Inserts a record and returns the row as it is stored. -/
def insert (s : Schema) (record : Record) : Except Error BoundSql := do
  let values ← s.written record
  -- a row of defaults has a form of its own, since a column list may not be empty
  if values.isEmpty then
    return ⟨"INSERT INTO " ++ Bracketed.quoteObject s.table ++
      " OUTPUT INSERTED.* DEFAULT VALUES", .empty⟩
  let (names, ctx) := Context.empty.bindValues (values.map (·.2))
  return ⟨"INSERT INTO " ++ Bracketed.quoteObject s.table ++ " (" ++
      columnList (values.map (·.1)) ++ ") OUTPUT INSERTED.* VALUES (" ++
      commaSeparated names ++ ")",
    ctx.bindings⟩

/-- Sets columns of the rows that match. -/
def updateValues (s : Schema) (values : List (Column × Value)) (predicate : Option Predicate)
    (limit : Option Nat) : Except Error BoundSql := do
  if values.isEmpty then throw (.nothingToUpdate s.table)
  let (names, ctx) := Context.empty.bindValues (values.map (·.2))
  let assignments :=
    (values.zip names).map fun e => Bracketed.quote e.1.1.name ++ " = " ++ e.2
  s.command
    ("UPDATE " ++ Bracketed.quoteObject s.table ++ " SET " ++ commaSeparated assignments)
    ctx predicate limit

/-- Sets every column but the primary key from a record. -/
def update (s : Schema) (record : Record) (predicate : Option Predicate) (limit : Option Nat) :
    Except Error BoundSql := do
  let values ← s.written record
  s.updateValues values predicate limit

/-- Sets the named columns. -/
def updateColumns (s : Schema) (columns : List (String × Value)) (predicate : Option Predicate)
    (limit : Option Nat) : Except Error BoundSql := do
  let values ← columns.mapM fun e => s.assignNamed e.1 e.2
  s.updateValues values predicate limit

/-- Deletes the rows that match. -/
def delete (s : Schema) (predicate : Option Predicate) (limit : Option Nat) :
    Except Error BoundSql :=
  s.command ("DELETE FROM " ++ Bracketed.quoteObject s.table) .empty predicate limit

end Schema

/-! ## Stored procedures -/

/-- The name of an argument without the at signs in front of it. -/
def stripAt (name : String) : List Char := name.toList.dropWhile (· == '@')

/-- An argument name consists of one or more ASCII letters, digits and underscores. -/
def isParameterName (cs : List Char) : Bool :=
  !cs.isEmpty && cs.all fun c => c.isAlphanum || c == '_'

/-- The stripped name of an argument, if it can be written. -/
def parameterName (name : String) : Except Error String :=
  let cs := stripAt name
  if isParameterName cs then .ok (String.ofList cs)
  else .error (.invalidParameterName (String.ofList cs))

/-- Calls a stored procedure with named arguments. -/
def storedProcedure (name : String) (arguments : List (String × Value)) :
    Except Error BoundSql := do
  let parameters ← arguments.mapM fun e => parameterName e.1
  let (names, ctx) := Context.empty.bindValues (arguments.map (·.2))
  let assignments := (parameters.zip names).map fun e => "@" ++ e.1 ++ " = " ++ e.2
  return ⟨"EXEC " ++ Bracketed.quoteObject name ++
      (if assignments.isEmpty then "" else " " ++ commaSeparated assignments),
    ctx.bindings⟩

end EntitySql
