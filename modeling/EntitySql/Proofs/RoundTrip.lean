import EntitySql.Proofs.Derived
import EntitySql.Proofs.NamedValues
import EntitySql.Proofs.OwnForm

/-! # Records through rows

The values of a record under the names of its columns are decoded to the record again, whatever the
order of the row and whatever other columns it has. A skipped field is in no row, so it comes back
as its default.

Main statement: `decode_values_of_record`.
-/

namespace EntitySql

/-- The mapped values of a record, each with the name of its column. -/
def Schema.namedValues (s : Schema) (record : Record) : List (String × Value) :=
  s.columnNames.zip (s.toValues record)

/-- A record whose skipped fields have their defaults. -/
def Schema.withDefaults (s : Schema) (record : Record) : Record :=
  (s.fields.zip record).map fun e => if e.1.isMapped then e.2 else e.1.type.default

/-- A record of a struct: a value for each field, of the field's type. -/
def Description.Holds (d : Description) (record : Record) : Prop :=
  List.Forall₂ (fun f value => f.type.valueType.Holds value) d.fields record

/-! ## Rows -/

namespace Schema

variable {s : Schema} {record : Record} {row : Row} {extra : List (String × Value)}

/-- The named values are those of the mapped fields, field by field. -/
theorem namedValues_eq (hlength : s.fields.length = record.length) :
    s.namedValues record =
      (s.fields.zip record).filterMap fun e => e.1.column.map fun c => (c.name, e.2) := by
  rcases s with ⟨table, fields, handleType, isPublic⟩
  change fields.length = record.length at hlength
  induction fields generalizing record with
  | nil => rfl
  | cons f fields ih =>
      cases record with
      | nil => cases hlength
      | cons value record =>
          have hrest := ih (Nat.succ.inj hlength)
          rw [namedValues, columnNames, columns, toValues] at hrest ⊢
          simp only at hrest ⊢
          cases hcolumn : f.column with
          | none => simpa [hcolumn, SchemaField.isMapped] using hrest
          | some column => simpa [hcolumn, SchemaField.isMapped] using hrest

/-- The value of a mapped field is under the name of its column. -/
theorem mem_namedValues {f : SchemaField} {column : Column} {value : Value}
    (hlength : s.fields.length = record.length) (hmem : (f, value) ∈ s.fields.zip record)
    (hcolumn : f.column = some column) : (column.name, value) ∈ s.namedValues record := by
  rw [namedValues_eq hlength, List.mem_filterMap]
  exact ⟨(f, value), hmem, by rw [hcolumn]; rfl⟩

/-- Every column has its value. -/
theorem map_fst_namedValues (hlength : s.fields.length = record.length) :
    (s.namedValues record).map Prod.fst = s.columnNames := by
  have hfields : (s.fields.zip record).map Prod.fst = s.fields := List.map_fst_zip hlength.le
  rw [namedValues_eq hlength, columnNames, columns, List.map_filterMap, List.map_filterMap]
  calc
    (s.fields.zip record).filterMap
        (fun e => (e.1.column.map fun c => (c.name, e.2)).map Prod.fst)
      = ((s.fields.zip record).map Prod.fst).filterMap (fun f => f.column.map (·.name)) := by
        simp [List.filterMap_map, Function.comp_def]
    _ = s.fields.filterMap (fun f => f.column.map (·.name)) := by rw [hfields]

/-- Where no column is repeated, a row with the values of a record gives each of them by name. -/
theorem get?_of_perm (hlength : s.fields.length = record.length) (hnames : s.columnNames.Nodup)
    (hextra : ∀ e ∈ extra, e.1 ∉ s.columnNames)
    (hrow : row.entries.Perm (s.namedValues record ++ extra)) {name : String} {value : Value}
    (hmem : (name, value) ∈ s.namedValues record) : row.get? name = some value := by
  have hname : name ∈ s.columnNames := (List.of_mem_zip hmem).1
  refine NamedValues.get?_eq_some_of_unique
    (hrow.mem_iff.mpr (List.mem_append_left extra hmem)) fun other hother => ?_
  rcases List.mem_append.mp (hrow.mem_iff.mp hother) with hother | hother
  · rw [← map_fst_namedValues hlength] at hnames
    have hentry : (name, other) = (name, value) := List.inj_on_of_nodup_map hnames hother hmem rfl
    exact congrArg Prod.snd hentry
  · exact absurd hname (hextra _ hother)

/-- A field is decoded from the value that the row has for its column. -/
theorem decode_field {f : SchemaField} {value : Value} (hvalue : f.type.Holds value)
    (hrow : ∀ column, f.column = some column → row.get? column.name = some value) :
    f.decode row = .ok (if f.isMapped then value else f.type.default) := by
  cases hcolumn : f.column with
  | none => simp [SchemaField.decode, SchemaField.isMapped, hcolumn]
  | some column =>
      have hget := hrow column hcolumn
      have hread := hvalue.read?_eq
      simp [SchemaField.decode, SchemaField.isMapped, hcolumn, NamedValues.read, hget, hread]

theorem decode_of_perm (hrecord : List.Forall₂ (fun f value => f.type.Holds value) s.fields record)
    (hnames : s.columnNames.Nodup) (hextra : ∀ e ∈ extra, e.1 ∉ s.columnNames)
    (hrow : row.entries.Perm (s.namedValues record ++ extra)) :
    s.decode row = .ok (s.withDefaults record) := by
  have hlength := hrecord.length_eq
  have hfields : (s.fields.zip record).map Prod.fst = s.fields := List.map_fst_zip hlength.le
  have hdecode : List.Forall₂ (fun f value => f.decode row = .ok value)
      ((s.fields.zip record).map Prod.fst) (s.withDefaults record) := by
    rw [withDefaults, List.forall₂_map_left_iff, List.forall₂_map_right_iff, List.forall₂_same]
    rintro ⟨f, value⟩ hmem
    refine decode_field (List.forall₂_zip hrecord hmem) fun column hcolumn => ?_
    exact get?_of_perm hlength hnames hextra hrow (mem_namedValues hlength hmem hcolumn)
  rw [hfields] at hdecode
  exact mapM_of_forall₂ hdecode

end Schema

/-! ## Described structs -/

/-- A derived schema has the types of the described fields. -/
theorem Description.types_of_derive {d : Description} {s : Schema} (h : d.derive = .ok s) :
    s.fields.map (·.type) = d.fields.map (·.type.valueType) := by
  rcases derive_eq_ok.mp h with ⟨-, -, table, -, fields, hfields, -, rfl⟩
  refine map_eq_of_mapM hfields fun f g hderive => ?_
  rcases FieldDescription.derive_eq_ok.mp hderive with ⟨settings, -, -, rfl⟩
  rfl

theorem Description.Holds.fields {d : Description} {s : Schema} {record : Record}
    (hrecord : d.Holds record) (h : d.derive = .ok s) :
    List.Forall₂ (fun f value => f.type.Holds value) s.fields record := by
  have htypes : List.Forall₂ ValueType.Holds (d.fields.map (·.type.valueType)) record :=
    List.forall₂_map_left_iff.mpr hrecord
  rw [← d.types_of_derive h] at htypes
  exact List.forall₂_map_left_iff.mp htypes

/-- A record of a derived struct is decoded from any row that has its mapped values under the names
of their columns, in any order and among any columns of other names. -/
theorem decode_values_of_record {d : Description} {s : Schema} {record : Record} {row : Row}
    {extra : List (String × Value)} (hderive : d.derive = .ok s) (hnames : s.columnNames.Nodup)
    (hrecord : d.Holds record) (hextra : ∀ e ∈ extra, e.1 ∉ s.columnNames)
    (hrow : row.entries.Perm (s.namedValues record ++ extra)) :
    s.decode row = .ok (s.withDefaults record) :=
  s.decode_of_perm (hrecord.fields hderive) hnames hextra hrow

/-- A struct with a key, a named column, an optional field and a skipped one. -/
def Description.reading : Description where
  kind := .namedStruct
  name := "Reading"
  isPublic := false
  generics := []
  attributes := []
  fields :=
    [⟨"level", .named "i8", [⟨"primary_key", .bare⟩]⟩,
      ⟨"factor", .named "f32", [⟨"column", .list [⟨"name", some (.str "f")⟩]⟩]⟩,
      ⟨"note", .applied "Option" [.named "String"], []⟩,
      ⟨"cached", .applied "Vec" [.named "u8"], [⟨"column", .list [⟨"skip", none⟩]⟩]⟩]

/-- The schema of readings. -/
def Schema.reading : Schema where
  table := "reading"
  fields :=
    [⟨"level", .plain (.integer .i8), some ⟨"level", "level", .integer, false, true, none⟩⟩,
      ⟨"factor", .plain .float32, some ⟨"factor", "f", .float, false, false, none⟩⟩,
      ⟨"note", .optional .string, some ⟨"note", "note", .text, true, false, none⟩⟩,
      ⟨"cached", .plain .bytes, none⟩]
  handleType := "ReadingFields"
  isPublic := false

/-- The least level, one and a half, no note, and a byte that no row has. -/
def Record.reading : Record := [.int (-128), .float 1.5, .null, .bytes [7]]

theorem holds_reading : Description.reading.Holds Record.reading := by
  have hsingle : Binary64.IsSingle 1.5 := by
    intro d hd
    have hbits : Binary64.dyadic? 1.5 = some ⟨false, 3 * 2 ^ 51, -52⟩ := by decide +kernel
    rw [hbits] at hd
    cases hd
    exact ⟨3, 51, rfl, by decide, by decide, by decide⟩
  refine .cons (.plain (.integer (n := -128) (by decide) (by decide))) ?_
  refine .cons (.plain (.float32 hsingle)) ?_
  exact .cons (.absent .string) (.cons (.plain (.bytes [7])) .nil)

/-- The row is in another order and has a column of the name of the skipped field. -/
theorem decode_values_of_record_reading :
    Description.reading.derive = .ok Schema.reading ∧ Schema.reading.columnNames.Nodup ∧
      Schema.reading.decode
        ⟨[("note", .null), ("f", .float 1.5), ("cached", .int 1), ("level", .int (-128))]⟩ =
        .ok [.int (-128), .float 1.5, .null, .bytes []] := by
  have hderive : Description.reading.derive = .ok Schema.reading := rfl
  have hnames : Schema.reading.columnNames.Nodup := by decide
  have hextra : ∀ e ∈ [("cached", Value.int 1)], e.1 ∉ Schema.reading.columnNames := by
    intro e he
    rw [List.mem_singleton.mp he]
    decide
  refine ⟨hderive, hnames, decode_values_of_record hderive hnames holds_reading hextra ?_⟩
  -- the last column comes to the front, then the two behind it change places
  exact (@List.perm_append_comm _ [_, _, _] [_]).trans (.cons _ (.swap _ _ _))

end EntitySql
