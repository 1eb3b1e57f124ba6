import EntitySql.Error
import EntitySql.NamedValues
import EntitySql.Schema
/-!
# Records

A record holds the values of an entity: one for each field of the schema, in declaration order and
each in the form of its field's type. Records are decoded from result rows.
-/

namespace EntitySql

/-- The values of an entity's fields, in declaration order. -/
abbrev Record := List Value

/-- Reads a column of a row as a type. -/
def NamedValues.read (row : Row) (name : String) (type : ValueType) : Except Error Value :=
  match row.get? name with
  | none => .error (.missingColumn name)
  | some value =>
    match type.read? value with
    | none => .error (.conversion name type.name value.typeName)
    | some read => .ok read

/-- Decodes a field from a row: a mapped field from its column, and a skipped one as its default. -/
def SchemaField.decode (f : SchemaField) (row : Row) : Except Error Value :=
  match f.column with
  | none => .ok f.type.default
  | some column => row.read column.name f.type

namespace Schema

/-- Decodes a row; the first field that fails decides the error. -/
def decode (s : Schema) (row : Row) : Except Error Record := s.fields.mapM (·.decode row)

/-- The values of the mapped fields, in the order of the columns. -/
def toValues (s : Schema) (record : Record) : List Value :=
  ((s.fields.zip record).filter (·.1.isMapped)).map (·.2)

/-- The record whose fields have the given values, if each of them converts to its field's type. -/
def record? (s : Schema) (given : String → Value) : Option Record :=
  s.fields.mapM fun f => f.type.read? (given f.name)

end Schema

end EntitySql
