import EntitySql.Expression.OfPredicate
import EntitySql.Value.ValueType
/-!
# Schemas

The schema of an entity: its table and its fields in declaration order, each with its type and, if
it is mapped, its column. A field that is not mapped is skipped: it is neither written nor read.
-/

namespace EntitySql

/-- The column of a mapped field. -/
structure Column where
  /-- The name of the field. -/
  field : String
  /-- The name in the database. -/
  name : String
  type : FieldClass
  nullable : Bool
  isPrimaryKey : Bool
  /-- The greatest length of text and binary values. -/
  maxLength : Option Nat
  deriving DecidableEq, Repr

/-- A field of an entity. -/
structure SchemaField where
  name : String
  type : ValueType
  /-- The column of the field, `none` when the field is skipped. -/
  column : Option Column
  deriving DecidableEq, Repr

/-- The field has a column. -/
def SchemaField.isMapped (f : SchemaField) : Bool := f.column.isSome

/-- The handle of a column's field. -/
def Column.handle (c : Column) : Handle := ⟨c.field, c.type⟩

/-- The table and the fields of an entity. -/
structure Schema where
  table : String
  fields : List SchemaField
  /-- The name of the type that holds the handles. -/
  handleType : String
  /-- The handles are visible wherever the entity is. -/
  isPublic : Bool
  deriving DecidableEq, Repr

namespace Schema

/-- The columns of the mapped fields, in declaration order. -/
def columns (s : Schema) : List Column := s.fields.filterMap (·.column)

/-- The name of the primary key column. -/
def primaryKey? (s : Schema) : Option String := (s.columns.find? (·.isPrimaryKey)).map (·.name)

/-- The column of a field. -/
def columnOf? (s : Schema) (field : String) : Option Column := s.columns.find? (·.field == field)

/-- The first column of a name. -/
def columnNamed? (s : Schema) (name : String) : Option Column := s.columns.find? (·.name == name)

/-- The names of the columns, in declaration order. -/
def columnNames (s : Schema) : List String := s.columns.map (·.name)

/-- The resolver of the schema's fields. -/
def resolver (s : Schema) : Resolver := fun field => (s.columnOf? field).map (·.name)

/-- The handles of the mapped fields, in declaration order. -/
def handles (s : Schema) : List Handle := s.columns.map (·.handle)

/-- The handle of a mapped field. -/
def handle? (s : Schema) (field : String) : Option Handle := s.handles.find? (·.field == field)

end Schema

end EntitySql
