import EntitySql.Schema
import EntitySql.Schema.Description
import EntitySql.Text.SnakeCase
/-!
# Deriving schemas

The schema of an entity is derived from the description of a struct. Attributes are read in order
and a later setting replaces an earlier one; the first thing wrong ends the derivation.
-/

namespace EntitySql

/-! ## Reading attributes -/

/-- The base of an integer literal and the text behind its mark. -/
def integerBase : List Char → Nat × List Char
  | '0' :: 'x' :: cs => (16, cs)
  | '0' :: 'o' :: cs => (8, cs)
  | '0' :: 'b' :: cs => (2, cs)
  | cs => (10, cs)

/-- The digits of an integer literal up to its suffix, as one number. Underscores group digits. -/
def integerDigits (base : Nat) : (n : Nat) → List Char → Nat
  | n, [] => n
  | n, c :: cs =>
    if c = '_' then integerDigits base n cs
    else
      match if base = 16 then Numeral.hexDigit? c else Numeral.digit? c with
      | some d => if d < base then integerDigits base (base * n + d) cs else n
      | none => n

/-- The number that an integer literal denotes, if it fits into 64 bits. -/
def readInteger (text : String) : Except DeriveError Nat :=
  match text.toList with
  | '-' :: _ => .error (.badInteger .invalidDigit)
  | cs =>
    let (base, digits) := integerBase cs
    let n := integerDigits base 0 digits
    if n < Numeral.wordBound then .ok n else .error (.badInteger .tooLarge)

/-- The text that an item sets. -/
def AttributeItem.string (item : AttributeItem) : Except DeriveError String :=
  match item.value with
  | none => .error .equalsExpected
  | some (.str s) => .ok s
  | some _ => .error .stringExpected

/-- The number that an item sets. -/
def AttributeItem.integer (item : AttributeItem) : Except DeriveError Nat :=
  match item.value with
  | none => .error .equalsExpected
  | some (.int text) => readInteger text
  | some _ => .error .integerExpected

/-- The items of an attribute that must have a list of them. -/
def Attribute.items (a : Attribute) : Except DeriveError (List AttributeItem) :=
  match a.form with
  | .bare => .error (.argumentsExpected a.path)
  | .assigned _ => .error (.parenthesesExpected a.path)
  | .list items => .ok items

/-- The table name after one more item. -/
def setTable (_ : Option String) (item : AttributeItem) : Except DeriveError (Option String) :=
  if item.key = "table" then item.string.map some else .error .unknownEntityKey

/-- The table name after one more attribute of the struct. -/
def applyEntityAttribute (table : Option String) (a : Attribute) :
    Except DeriveError (Option String) :=
  if a.path = "entity" then do
    let items ← a.items
    items.foldlM setTable table
  else .ok table

/-- What the attributes of a field have set. -/
structure ColumnSettings where
  name : String
  isPrimaryKey : Bool
  maxLength : Option Nat
  skip : Bool

/-- The settings after one more item. -/
def ColumnSettings.set (s : ColumnSettings) (item : AttributeItem) :
    Except DeriveError ColumnSettings :=
  if item.key = "name" then item.string.map fun name => { s with name }
  else if item.key = "max_length" then
    item.integer.map fun n => { s with maxLength := some n }
  else if item.key = "skip" then
    if item.value.isSome then .error .commaExpected else .ok { s with skip := true }
  else .error .unknownColumnKey

/-- The settings after one more attribute of the field. -/
def ColumnSettings.apply (s : ColumnSettings) (a : Attribute) : Except DeriveError ColumnSettings :=
  if a.path = "primary_key" then
    match a.form with
    | .bare => .ok { s with isPrimaryKey := true }
    | _ => .error .unexpectedToken
  else if a.path = "column" then do
    let items ← a.items
    items.foldlM ColumnSettings.set s
  else .ok s

/-! ## Deriving -/

/-- The schema of one field. -/
def FieldDescription.derive (f : FieldDescription) : Except DeriveError SchemaField := do
  let settings ← f.attributes.foldlM ColumnSettings.apply ⟨f.name, false, none, false⟩
  if settings.skip && settings.isPrimaryKey then throw .skippedKey
  let column : Column :=
    { field := f.name
      name := settings.name
      type := (f.type.optional?.getD f.type).fieldClass
      nullable := f.type.optional?.isSome
      isPrimaryKey := settings.isPrimaryKey
      maxLength := settings.maxLength }
  return ⟨f.name, f.type.valueType, if settings.skip then none else some column⟩

/-- The name of the type that holds an entity's handles; the mark of a raw name is dropped. -/
def handleTypeName (name : String) : String :=
  match name.toList with
  | 'r' :: '#' :: cs => String.ofList cs ++ "Fields"
  | _ => name ++ "Fields"

/-- Derives the schema of a described struct. -/
def Description.derive (d : Description) : Except DeriveError Schema := do
  if !d.generics.isEmpty then throw .generic
  if d.kind ≠ .namedStruct then throw .noNamedFields
  let table ← d.attributes.foldlM applyEntityAttribute none
  let fields ← d.fields.mapM FieldDescription.derive
  if 1 < ((fields.filterMap (·.column)).filter (·.isPrimaryKey)).length then throw .secondKey
  return { table := table.getD (SnakeCase.ofName d.name)
           fields
           handleType := handleTypeName d.name
           isPublic := d.isPublic }

end EntitySql
