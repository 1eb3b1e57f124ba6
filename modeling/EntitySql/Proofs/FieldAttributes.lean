import EntitySql.Proofs.Derived
import EntitySql.Record

/-! # What attributes say

The settings of a field are read off its attributes without an order of steps: its column has the
last name that is given, or else the field's own, and the last greatest length; the field is
skipped or a key if any attribute says so. A derived schema is that of these settings
(`Description.fields_of_derive`), and attributes that can be read hold no unknown keys.
-/

namespace EntitySql

/-! ## Attributes -/

/-- The items of the attribute if it is a list behind the path. -/
def Attribute.itemsOf (path : String) (a : Attribute) : List AttributeItem :=
  match a.form with
  | .list items => if a.path = path then items else []
  | _ => []

/-- The name that the item gives. -/
def AttributeItem.name? (item : AttributeItem) : Option String :=
  if item.key = "name" then item.string.toOption else none

/-- The greatest length that the item gives. -/
def AttributeItem.maxLength? (item : AttributeItem) : Option Nat :=
  if item.key = "max_length" then item.integer.toOption else none

/-- The keys of items that describe a column. -/
def columnKeys : List String := ["name", "max_length", "skip"]

namespace FieldDescription

/-- The items that describe the field's column. -/
def items (f : FieldDescription) : List AttributeItem := f.attributes.flatMap (·.itemsOf "column")

/-- The field is marked as the primary key. -/
def isKey (f : FieldDescription) : Bool := f.attributes.any (·.path == "primary_key")

/-- The field has no column. -/
def isSkipped (f : FieldDescription) : Bool := f.items.any (·.key == "skip")

/-- The name of the field's column. -/
def columnName (f : FieldDescription) : String :=
  ((f.items.filterMap (·.name?)).getLast?).getD f.name

/-- The greatest length of the field's values. -/
def maxLength? (f : FieldDescription) : Option Nat := (f.items.filterMap (·.maxLength?)).getLast?

/-- The class of the field's values, which an optional field has from what it may hold. -/
def fieldClass (f : FieldDescription) : FieldClass := (f.type.optional?.getD f.type).fieldClass

/-- The column of the field, unless it is skipped. -/
def column (f : FieldDescription) : Column where
  field := f.name
  name := f.columnName
  type := f.fieldClass
  nullable := f.type.optional?.isSome
  isPrimaryKey := f.isKey
  maxLength := f.maxLength?

/-- The field in a schema. -/
def schemaField (f : FieldDescription) : SchemaField :=
  ⟨f.name, f.type.valueType, if f.isSkipped then none else some f.column⟩

end FieldDescription

/-- The items that describe the table. -/
def Description.entityItems (d : Description) : List AttributeItem :=
  d.attributes.flatMap (·.itemsOf "entity")

/-! ## Settings -/

namespace ColumnSettings

/-- The settings behind more items, with a mark of the primary key or without one. -/
def after (s : ColumnSettings) (marked : Bool) (items : List AttributeItem) : ColumnSettings where
  name := ((items.filterMap (·.name?)).getLast?).getD s.name
  isPrimaryKey := s.isPrimaryKey || marked
  maxLength := ((items.filterMap (·.maxLength?)).getLast?).or s.maxLength
  skip := s.skip || items.any (·.key == "skip")

theorem after_nil (s : ColumnSettings) : s.after false [] = s := by
  simp [after]

/-- Later items replace what earlier ones have set. -/
theorem after_after (s : ColumnSettings) (marked marked' : Bool)
    (items items' : List AttributeItem) :
    (s.after marked items).after marked' items' =
      s.after (marked || marked') (items ++ items') := by
  simp only [after, List.filterMap_append, List.getLast?_append, List.any_append, Bool.or_assoc,
    Option.or_assoc, mk.injEq, and_true]
  cases (items'.filterMap (·.name?)).getLast? <;> rfl

/-- An item of a known key makes its setting. -/
theorem set_eq_ok {s t : ColumnSettings} {item : AttributeItem} (h : s.set item = .ok t) :
    item.key ∈ columnKeys ∧ t = s.after false [item] := by
  rw [set] at h
  split_ifs at h with hname hlength hskip hvalue
  · rcases map_eq_ok.mp h with ⟨name, hstring, rfl⟩
    simp [columnKeys, after, AttributeItem.name?, AttributeItem.maxLength?, hname, hstring,
      Except.toOption]
  · rcases map_eq_ok.mp h with ⟨n, hinteger, rfl⟩
    simp [columnKeys, after, AttributeItem.name?, AttributeItem.maxLength?, hlength, hinteger,
      Except.toOption]
  · obtain rfl := Except.ok.inj h
    simp [columnKeys, after, AttributeItem.name?, AttributeItem.maxLength?, hskip]

theorem foldlM_set {s t : ColumnSettings} {items : List AttributeItem}
    (h : items.foldlM ColumnSettings.set s = .ok t) :
    (∀ item ∈ items, item.key ∈ columnKeys) ∧ t = s.after false items :=
  ⟨forall_of_foldlM (P := fun item => item.key ∈ columnKeys)
      (fun _ _ _ hset => (set_eq_ok hset).1) h,
    foldlM_eq_of_step after_nil (fun s item items => s.after_after false false [item] items)
      (fun _ _ _ hset => (set_eq_ok hset).2) h⟩

/-- An attribute that can be read marks a key or makes the settings of its items. -/
theorem apply_eq_ok {s t : ColumnSettings} {a : Attribute} (h : s.apply a = .ok t) :
    (∀ item ∈ a.itemsOf "column", item.key ∈ columnKeys) ∧
      t = s.after (a.path == "primary_key") (a.itemsOf "column") := by
  rw [apply] at h
  split_ifs at h with hkey hcolumn
  · -- the mark of a key has no items
    cases hform : a.form with
    | bare =>
        rw [hform] at h
        obtain rfl := Except.ok.inj h
        simp [Attribute.itemsOf, hform, after, hkey]
    | assigned value => simp [hform] at h
    | list items => simp [hform] at h
  · have hunmarked : (a.path == "primary_key") = false := by simpa using hkey
    rcases bind_eq_ok.mp h with ⟨items, hitems, h⟩
    cases hform : a.form with
    | bare => simp [Attribute.items, hform] at hitems
    | assigned value => simp [Attribute.items, hform] at hitems
    | list items' =>
        obtain rfl : items' = items := by simpa [Attribute.items, hform] using hitems
        have hlist : a.itemsOf "column" = items' := by simp [Attribute.itemsOf, hform, hcolumn]
        rw [hlist, hunmarked]
        exact foldlM_set h
  · have hunmarked : (a.path == "primary_key") = false := by simpa using hkey
    have hnone : a.itemsOf "column" = [] := by
      unfold Attribute.itemsOf
      split
      · exact if_neg hcolumn
      · rfl
    obtain rfl := Except.ok.inj h
    rw [hnone, hunmarked, after_nil]
    simp

theorem foldlM_apply {s t : ColumnSettings} {attributes : List Attribute}
    (h : attributes.foldlM ColumnSettings.apply s = .ok t) :
    (∀ a ∈ attributes, ∀ item ∈ a.itemsOf "column", item.key ∈ columnKeys) ∧
      t = s.after (attributes.any (·.path == "primary_key"))
        (attributes.flatMap (·.itemsOf "column")) := by
  refine ⟨forall_of_foldlM (P := fun a => ∀ item ∈ a.itemsOf "column", item.key ∈ columnKeys)
    (fun _ _ _ happly => (apply_eq_ok happly).1) h, ?_⟩
  refine foldlM_eq_of_step (F := fun s as => s.after (as.any (·.path == "primary_key"))
    (as.flatMap (·.itemsOf "column"))) after_nil ?_ ?_ h
  · intro s a as
    simp [after_after]
  · intro s a t happly
    simpa using (apply_eq_ok happly).2

end ColumnSettings

/-! ## Derived schemas -/

/-- A derived field is that of its settings. It is no skipped key, and its items have known keys. -/
theorem FieldDescription.derive_eq_schemaField {f : FieldDescription} {g : SchemaField}
    (h : f.derive = .ok g) :
    g = f.schemaField ∧ ¬ (f.isSkipped = true ∧ f.isKey = true) ∧
      ∀ item ∈ f.items, item.key ∈ columnKeys := by
  rcases derive_eq_ok.mp h with ⟨settings, hsettings, hskipped, rfl⟩
  rcases ColumnSettings.foldlM_apply hsettings with ⟨hkeys, rfl⟩
  refine ⟨?_, hskipped, ?_⟩
  · have hlength : f.maxLength?.or none = f.maxLength? := Option.or_none
    have hcolumn : f.columnOf (f.start.after f.isKey f.items) = f.column := by
      change Column.mk _ _ _ _ _ (f.maxLength?.or none) = _
      rw [hlength]
      rfl
    change SchemaField.mk _ _ (if f.isSkipped then none else
      some (f.columnOf (f.start.after f.isKey f.items))) = _
    rw [hcolumn]
    rfl
  · intro item hitem
    rcases List.mem_flatMap.mp hitem with ⟨a, ha, hitem⟩
    exact hkeys a ha item hitem

namespace Description

variable {d : Description} {s : Schema}

/-- The fields that have a column, in declaration order. -/
def mapped (d : Description) : List FieldDescription := d.fields.filter fun f => !f.isSkipped

theorem fields_of_derive (h : d.derive = .ok s) : s.fields = d.fields.map (·.schemaField) := by
  rcases derive_eq_ok.mp h with ⟨-, -, table, -, fields, hfields, -, rfl⟩
  have hkeep : fields.map id = d.fields.map (·.schemaField) :=
    map_eq_of_mapM hfields fun f g hderive =>
      (FieldDescription.derive_eq_schemaField hderive).1
  rwa [List.map_id] at hkeep

/-- The columns of a derived schema are those of the mapped fields. -/
theorem columns_of_derive (h : d.derive = .ok s) : s.columns = d.mapped.map (·.column) := by
  rw [Schema.columns, fields_of_derive h, mapped]
  induction d.fields with
  | nil => rfl
  | cons f fields ih =>
      cases hskip : f.isSkipped with
      | false => simpa [FieldDescription.schemaField, hskip] using ih
      | true => simpa [FieldDescription.schemaField, hskip] using ih

/-- The mapped fields with the values that a record has for them. -/
def mappedValues (d : Description) (record : Record) : List (FieldDescription × Value) :=
  (d.fields.zip record).filter fun e => !e.1.isSkipped

/-- The values of a record in a derived schema are those of the mapped fields. -/
theorem toValues_of_derive (h : d.derive = .ok s) (record : Record) :
    s.toValues record = (d.mappedValues record).map (·.2) := by
  have hmapped : ∀ f : FieldDescription, f.schemaField.isMapped = !f.isSkipped := by
    intro f
    cases hskip : f.isSkipped <;> simp [FieldDescription.schemaField, SchemaField.isMapped, hskip]
  rw [Schema.toValues, fields_of_derive h, mappedValues, List.zip_map_left, List.filter_map,
    List.map_map]
  simp only [Function.comp_def, Prod.map_fst, Prod.map_snd, hmapped]
  rfl

/-- A record with a value for each field has one for each mapped field. -/
theorem map_fst_mappedValues {record : Record} (hlength : record.length = d.fields.length) :
    (d.mappedValues record).map (·.1) = d.mapped := by
  have hfields : (d.fields.zip record).map Prod.fst = d.fields :=
    List.map_fst_zip (Nat.le_of_eq hlength.symm)
  calc
    (d.mappedValues record).map (·.1)
      = ((d.fields.zip record).map Prod.fst).filter (fun f => !f.isSkipped) := by
        rw [mappedValues, List.filter_map]
        rfl
    _ = d.mapped := by rw [hfields, mapped]

/-- Columns and values of a record come in pairs, one for each mapped field. -/
theorem zip_toValues_of_derive (h : d.derive = .ok s) {record : Record}
    (hlength : record.length = d.fields.length) :
    s.columns.zip (s.toValues record) =
      (d.mappedValues record).map fun e => (e.1.column, e.2) := by
  rw [columns_of_derive h, toValues_of_derive h, ← map_fst_mappedValues hlength, List.map_map,
    List.zip_map']
  rfl

end Description

end EntitySql
