import EntitySql.Schema.TypeExpr
import EntitySql.Text.Numeral
/-!
# Descriptions of structs

What a schema is derived from: a struct with its name, its fields and their types, and the
attributes on both; and what can be wrong with it.
-/

namespace EntitySql

/-! ## Struct descriptions -/

/-- A literal in an attribute. -/
inductive AttributeValue where
  | str (value : String)
  /-- An integer as it is written. -/
  | int (text : String)
  | bool (value : Bool)

/-- A setting in an attribute: a key, and a literal if an equals sign follows it. -/
structure AttributeItem where
  key : String
  value : Option AttributeValue

/-- What follows the path of an attribute. -/
inductive AttributeForm where
  | bare
  | assigned (value : AttributeValue)
  | list (items : List AttributeItem)

/-- An attribute of a struct or a field. -/
structure Attribute where
  path : String
  form : AttributeForm

/-- A described field. -/
structure FieldDescription where
  name : String
  type : TypeExpr
  attributes : List Attribute

/-- The kinds of a described item. -/
inductive ItemKind where
  | namedStruct
  | tupleStruct
  | unitStruct
  | enum
  | union
  deriving DecidableEq, Repr

/-- A described struct, or another item. -/
structure Description where
  kind : ItemKind
  name : String
  isPublic : Bool
  /-- The names of the generic parameters. -/
  generics : List String
  attributes : List Attribute
  fields : List FieldDescription

/-! ## Errors -/

/-- Why no schema can be derived. -/
inductive DeriveError where
  | generic
  | noNamedFields
  | unknownEntityKey
  | unknownColumnKey
  | equalsExpected
  | stringExpected
  | integerExpected
  | badInteger (cause : Numeral.ReadError)
  | commaExpected
  | argumentsExpected (path : String)
  | parenthesesExpected (path : String)
  | unexpectedToken
  | skippedKey
  | secondKey
  deriving DecidableEq, Repr

/-- The message of a derivation error. -/
def DeriveError.message : DeriveError → String
  | generic => "Entity can't be derived for generic structs"
  | noNamedFields => "Entity can only be derived for structs with named fields"
  | unknownEntityKey => "unsupported entity attribute, expected `table`"
  | unknownColumnKey =>
    "unsupported column attribute, expected `name`, `max_length` or `skip`"
  | equalsExpected => "expected `=`"
  | stringExpected => "expected string literal"
  | integerExpected => "expected integer literal"
  | badInteger cause => cause.message
  | commaExpected => "expected `,`"
  | argumentsExpected path => "expected attribute arguments in parentheses: #[" ++ path ++ "(...)]"
  | parenthesesExpected path => "expected parentheses: #[" ++ path ++ "(...)]"
  | unexpectedToken => "unexpected token in attribute"
  | skippedKey => "a #[primary_key] field can't be skipped"
  | secondKey => "only one field can be marked #[primary_key]"

end EntitySql
