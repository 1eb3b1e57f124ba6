import EntitySql.Value.ScalarType
/-!
# Value types

The type of a field as row values see it: a scalar type, an option of a type, or a type that no
value converts to.
-/

namespace EntitySql

/-- The type of a field: a scalar type, a type with an absent value besides, or a type of the
program's own that no value converts to. -/
inductive ValueType where
  | plain (type : ScalarType)
  | option (type : ValueType)
  | custom (name : String)
  deriving DecidableEq, Repr

namespace ValueType

/-- A scalar type with an absent value besides. -/
@[match_pattern]
abbrev optional (type : ScalarType) : ValueType := option (plain type)

/-- The name of the type in messages. An option has the name of its type. -/
def name : ValueType → String
  | plain t => t.name
  | option t => t.name
  | custom name => name

/-- Reads a value as the type. The absent value is one of every option. -/
def read? : ValueType → Value → Option Value
  | plain t, v => t.read? v
  | option _, .null => some .null
  | option t, v => t.read? v
  | custom _, _ => none

/-- The value that a field of the type has when no row gives one. -/
def default : ValueType → Value
  | plain t => t.default
  | option _ => .null
  | custom _ => .null

end ValueType

end EntitySql
