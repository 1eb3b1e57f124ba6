/-!
# Operators

The operators of a predicate and their SQL tokens. A few of them can be written in a predicate but
have no token; a string match is a LIKE whose right side has wildcards around it.
-/

namespace EntitySql

/-- The operator of a node. -/
inductive Operator where
  | equal | notEqual | greater | greaterEqual | less | lessEqual
  | and | or
  | add | subtract | multiply | divide | modulo
  | bitAnd | bitOr | bitXor
  | not | negate
  | startsWith | endsWith | contains | compare
  | power | shiftLeft | shiftRight | coalesce
  deriving DecidableEq, Repr

/-- Where a string match puts a wildcard beside its right side. -/
structure Wildcards where
  leading : Bool
  trailing : Bool
  deriving DecidableEq, Repr

namespace Operator

/-- Every operator once. -/
def all : List Operator :=
  [equal, notEqual, greater, greaterEqual, less, lessEqual, and, or, add, subtract, multiply,
    divide, modulo, bitAnd, bitOr, bitXor, not, negate, startsWith, endsWith, contains, compare,
    power, shiftLeft, shiftRight, coalesce]

/-- The name of the operator in messages. -/
def name : Operator → String
  | equal => "Equal"
  | notEqual => "NotEqual"
  | greater => "GreaterThan"
  | greaterEqual => "GreaterThanOrEqual"
  | less => "LessThan"
  | lessEqual => "LessThanOrEqual"
  | and => "AndAlso"
  | or => "OrElse"
  | add => "Add"
  | subtract => "Subtract"
  | multiply => "Multiply"
  | divide => "Divide"
  | modulo => "Modulo"
  | bitAnd => "BitAnd"
  | bitOr => "BitOr"
  | bitXor => "BitXor"
  | not => "Not"
  | negate => "Negate"
  | startsWith => "StartsWith"
  | endsWith => "EndsWith"
  | contains => "Contains"
  | compare => "CompareTo"
  | power => "Power"
  | shiftLeft => "LeftShift"
  | shiftRight => "RightShift"
  | coalesce => "Coalesce"

/-- The operator of a name. -/
def ofName? (name : String) : Option Operator := all.find? fun op => op.name == name

/-- The operator of a method that may be called on a column. -/
def ofMethod? (method : String) : Option Operator :=
  if method = "starts_with" then some startsWith
  else if method = "ends_with" then some endsWith
  else if method = "contains" then some contains
  else if method = "compare_to" then some compare
  else none

/-- The operator compares two values. -/
def isComparison : Operator → Bool
  | equal | notEqual | greater | greaterEqual | less | lessEqual => true
  | _ => false

/-- The operator joins two conditions. -/
def isLogical : Operator → Bool
  | and | or => true
  | _ => false

/-- The operator matches a text. -/
def isStringMatch : Operator → Bool
  | startsWith | endsWith | contains => true
  | _ => false

/-- The wildcards of a string match. -/
def wildcards? : Operator → Option Wildcards
  | startsWith => some ⟨false, true⟩
  | endsWith => some ⟨true, false⟩
  | contains => some ⟨true, true⟩
  | _ => none

/-- The SQL token of the operator. Negation is logical or of every bit; `logical` tells which. -/
def token? (op : Operator) (logical : Bool) : Option String :=
  match op with
  | equal => some "="
  | notEqual => some "<>"
  | greater => some ">"
  | greaterEqual => some ">="
  | less => some "<"
  | lessEqual => some "<="
  | and => some "AND"
  | or => some "OR"
  | add => some "+"
  | subtract | negate => some "-"
  | multiply => some "*"
  | divide => some "/"
  | modulo => some "%"
  | bitAnd => some "&"
  | bitOr => some "|"
  | bitXor => some "^"
  | not => some (if logical then "NOT" else "~")
  | startsWith | endsWith | contains => some "LIKE"
  | compare | power | shiftLeft | shiftRight | coalesce => none

end Operator

end EntitySql
