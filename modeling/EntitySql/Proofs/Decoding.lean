import EntitySql.Proofs.Conversion
import EntitySql.Proofs.FieldAttributes
import EntitySql.Proofs.FieldType
import EntitySql.Proofs.RoundTrip

/-! # Decoded rows

What a row is decoded to is said field by field. A mapped field has the value of the first column of
its name, read as the field's type, and a skipped field has its default; what the row holds besides
does not matter. Without such a value a field fails, and the first field that does, in declaration
order, decides the error.

The absent value is read by the fields whose type is an option, and a column is nullable where its
field's type is spelled as one. The two are the same where the type is written out; under another
name or in parentheses an option has a column that is not nullable.

Main statement: `row_decoded_field_by_field`.
-/

namespace EntitySql

/-! ## Rows -/

/-- The value of the first column of a name. -/
def NamedValues.First (row : Row) (name : String) (value : Value) : Prop :=
  FirstWith (·.1 = name) row.entries (name, value)

/-- What a field is decoded to: a mapped field to its reading, and a skipped one to its default. -/
inductive SchemaField.Decodes (row : Row) (f : SchemaField) : Value → Prop where
  | mapped {c : Column} {value result : Value} (hcolumn : f.column = some c)
      (hfirst : row.First c.name value) (hread : f.type.Reads value result) :
      Decodes row f result
  | skipped {value : Value} (hcolumn : f.column = none) (hdefault : f.type.IsDefault value) :
      Decodes row f value

/-- Why a field is not decoded. -/
inductive SchemaField.Fails (row : Row) (f : SchemaField) : Error → Prop where
  | missing {c : Column} (hcolumn : f.column = some c) (habsent : c.name ∉ row.names) :
      Fails row f (.missingColumn c.name)
  | unreadable {c : Column} {value : Value} (hcolumn : f.column = some c)
      (hfirst : row.First c.name value) (hread : ∀ result, ¬ f.type.Reads value result) :
      Fails row f (.conversion c.name f.type.name value.typeName)

namespace NamedValues

variable {row : Row} {name : String}

/-- A look-up finds the value of the first column of the name. -/
theorem get?_eq_some_iff_first {value : Value} :
    row.get? name = some value ↔ row.First name value := by
  have hkey : ∀ e : String × Value, (name != e.1) = true ↔ ¬ e.1 = name := by
    intro e
    rw [bne_iff_ne, ne_comm]
  rw [get?, List.lookup_eq_some_iff, First, FirstWith]
  simp only [hkey, true_and]

theorem read_eq_ok_iff {type : ValueType} {result : Value} :
    row.read name type = .ok result ↔
      ∃ value, row.First name value ∧ type.Reads value result := by
  simp only [← get?_eq_some_iff_first, ← ValueType.read?_eq_some_iff]
  rw [read]
  cases row.get? name with
  | none => simp
  | some value => cases hread : type.read? value <;> simp [hread]

theorem read_eq_error_iff {type : ValueType} {cause : Error} :
    row.read name type = .error cause ↔
      (name ∉ row.names ∧ cause = .missingColumn name) ∨
        ∃ value, row.First name value ∧ (∀ result, ¬ type.Reads value result) ∧
          cause = .conversion name type.name value.typeName := by
  simp only [← get?_eq_some_iff_first, ← get?_eq_none_iff, ← ValueType.read?_eq_none_iff]
  rw [read]
  cases row.get? name with
  | none => simp [eq_comm]
  | some value => cases hread : type.read? value <;> simp [hread, eq_comm]

end NamedValues

/-! ## Fields -/

namespace SchemaField

variable {f : SchemaField} {row : Row}

theorem decode_eq_ok_iff {result : Value} : f.decode row = .ok result ↔ f.Decodes row result := by
  rcases f with ⟨name, type, _ | c⟩
  · constructor
    · intro h
      exact .skipped rfl (ValueType.isDefault_iff.mpr (Except.ok.inj h).symm)
    · intro h
      cases h with
      | mapped hcolumn _ _ => cases hcolumn
      | skipped _ hdefault => exact congrArg Except.ok (ValueType.isDefault_iff.mp hdefault).symm
  · refine NamedValues.read_eq_ok_iff.trans ?_
    constructor
    · rintro ⟨value, hfirst, hread⟩
      exact .mapped rfl hfirst hread
    · intro h
      cases h with
      | mapped hcolumn hfirst hread =>
          cases hcolumn
          exact ⟨_, hfirst, hread⟩
      | skipped hcolumn _ => cases hcolumn

theorem decode_eq_error_iff {cause : Error} : f.decode row = .error cause ↔ f.Fails row cause := by
  rcases f with ⟨name, type, _ | c⟩
  · constructor
    · intro h
      cases h
    · intro h
      cases h with
      | missing hcolumn _ => cases hcolumn
      | unreadable hcolumn _ _ => cases hcolumn
  · refine NamedValues.read_eq_error_iff.trans ?_
    constructor
    · rintro (⟨habsent, rfl⟩ | ⟨value, hfirst, hread, rfl⟩)
      · exact .missing rfl habsent
      · exact .unreadable rfl hfirst hread
    · intro h
      cases h with
      | missing hcolumn habsent =>
          cases hcolumn
          exact Or.inl ⟨habsent, rfl⟩
      | unreadable hcolumn hfirst hread =>
          cases hcolumn
          exact Or.inr ⟨_, hfirst, hread, rfl⟩

/-- Rows that agree on the column of a field are the same to it. -/
theorem decode_congr {row' : Row}
    (hsame : ∀ c, f.column = some c → row.get? c.name = row'.get? c.name) :
    f.decode row = f.decode row' := by
  rw [decode, decode]
  cases hcolumn : f.column with
  | none => rfl
  | some c =>
      change row.read c.name f.type = row'.read c.name f.type
      rw [NamedValues.read, NamedValues.read, hsame c hcolumn]

end SchemaField

/-! ## Rows of a schema -/

namespace Schema

variable {s : Schema} {row : Row}

theorem decode_eq_ok_iff {record : Record} :
    s.decode row = .ok record ↔ List.Forall₂ (SchemaField.Decodes row) s.fields record := by
  constructor
  · intro h
    exact (forall₂_of_mapM h).imp fun _ _ hfield => SchemaField.decode_eq_ok_iff.mp hfield
  · intro h
    exact mapM_of_forall₂ (h.imp fun _ _ hfield => SchemaField.decode_eq_ok_iff.mpr hfield)

theorem decode_eq_error_iff {cause : Error} :
    s.decode row = .error cause ↔ FirstFault (SchemaField.Fails row) s.fields cause :=
  mapM_eq_error_iff_firstFault fun _ _ _ => SchemaField.decode_eq_error_iff

/-- A row is decoded exactly when each mapped field has a value that can be read. -/
theorem exists_decode_iff :
    (∃ record, s.decode row = .ok record) ↔
      ∀ f ∈ s.fields, ∀ c, f.column = some c →
        ∃ value result, row.First c.name value ∧ f.type.Reads value result := by
  constructor
  · rintro ⟨record, hrecord⟩ f hf c hcolumn
    rcases exists_ok_of_mapM hrecord hf with ⟨result, hresult⟩
    rw [SchemaField.decode, hcolumn] at hresult
    rcases NamedValues.read_eq_ok_iff.mp hresult with ⟨value, hfirst, hread⟩
    exact ⟨value, result, hfirst, hread⟩
  · intro hread
    have hfails : ∀ f ∈ s.fields, ∀ cause, f.decode row = .error cause ↔ f.Fails row cause :=
      fun f _ cause => SchemaField.decode_eq_error_iff
    refine (exists_mapM_ok_iff hfails).mpr fun f hf => ?_
    refine (exists_ok_iff_no_fault (hfails f hf)).mp ?_
    cases hcolumn : f.column with
    | none =>
        have hdefault := ValueType.isDefault_iff.mpr (rfl : f.type.default = f.type.default)
        exact ⟨_, SchemaField.decode_eq_ok_iff.mpr (.skipped hcolumn hdefault)⟩
    | some c =>
        rcases hread f hf c hcolumn with ⟨value, result, hfirst, hresult⟩
        exact ⟨result, SchemaField.decode_eq_ok_iff.mpr (.mapped hcolumn hfirst hresult)⟩

/-- Rows with the same first values under the names of the columns are the same to a schema. -/
theorem decode_congr {row' : Row} (hsame : ∀ name ∈ s.columnNames, ∀ value,
    row.First name value ↔ row'.First name value) : s.decode row = s.decode row' := by
  have hget : ∀ name ∈ s.columnNames, row.get? name = row'.get? name := by
    intro name hname
    refine Option.ext fun value => ?_
    rw [NamedValues.get?_eq_some_iff_first, NamedValues.get?_eq_some_iff_first]
    exact hsame name hname value
  refine mapM_congr_except fun f hf => ?_
  refine SchemaField.decode_congr fun c hcolumn => hget c.name ?_
  exact List.mem_map.mpr ⟨c, List.mem_filterMap.mpr ⟨f, hf, hcolumn⟩, rfl⟩

end Schema

/-! ## The absent value -/

/-- What the absent value is to a field with a column. -/
structure FieldDescription.TakesAbsent (f : FieldDescription) (c : Column) : Prop where
  /-- The field reads the absent value exactly if its type is an option, whatever it is called. -/
  reads : (∃ result, f.schemaField.type.Reads .null result) ↔
    ∃ type, f.schemaField.type = .option type
  /-- The column is nullable exactly if the type is spelled as an option. -/
  nullable : c.nullable = true ↔ f.type.IsSpelledOption
  /-- This is the same where the type is written out. -/
  agrees : f.type.IsWrittenOut →
    ((∃ result, f.schemaField.type.Reads .null result) ↔ c.nullable = true)

theorem FieldDescription.takesAbsent {f : FieldDescription} {c : Column} {type : ValueType}
    (hcolumn : f.schemaField.column = some c) (htype : f.type.Denotes type) :
    f.TakesAbsent c := by
  have hc : c = f.column := by
    rw [schemaField] at hcolumn
    split at hcolumn
    · cases hcolumn
    · exact (Option.some.inj hcolumn).symm
  have hnullable : c.nullable = true ↔ f.type.IsSpelledOption := by
    rw [hc]
    exact TypeExpr.isSome_optional?_iff
  have hdenoted : f.schemaField.type = type := htype.valueType_eq
  refine ⟨ValueType.exists_reads_null_iff, hnullable, fun hpath => ?_⟩
  calc
    (∃ result, f.schemaField.type.Reads .null result)
      ↔ ∃ inner, type = .option inner := by rw [hdenoted, ValueType.exists_reads_null_iff]
    _ ↔ f.type.IsSpelledOption := htype.option_iff_isSpelledOption hpath
    _ ↔ c.nullable = true := hnullable.symm

/-- A row is decoded exactly when it has, for each mapped field, a first column of the field's name
with a value that can be read as the type that the field's type denotes. The record then has these
readings, and defaults in the skipped fields; otherwise the error is that of the first field that
fails, in declaration order. The absent value is read by the fields of which the type is an option,
and these have nullable columns where the type is written out. Rows with the same first values under
the names of the columns are decoded alike. -/
theorem row_decoded_field_by_field {d : Description} {s : Schema} (hderive : d.derive = .ok s)
    (hsupported : ∀ f ∈ d.fields, ∃ type, f.type.Denotes type) (row : Row) :
    s.fields = d.fields.map (·.schemaField) ∧
    (∀ f ∈ d.fields, f.type.Denotes f.schemaField.type) ∧
    ((∃ record, s.decode row = .ok record) ↔
      ∀ f ∈ s.fields, ∀ c, f.column = some c →
        ∃ value result, row.First c.name value ∧ f.type.Reads value result) ∧
    (∀ record, s.decode row = .ok record ↔
      List.Forall₂ (SchemaField.Decodes row) s.fields record) ∧
    (∀ cause, s.decode row = .error cause ↔
      FirstFault (SchemaField.Fails row) s.fields cause) ∧
    (∀ f ∈ d.fields, ∀ c, f.schemaField.column = some c → f.TakesAbsent c) ∧
    ∀ row' : Row, (∀ name ∈ s.columnNames, ∀ value,
      row.First name value ↔ row'.First name value) → s.decode row = s.decode row' := by
  refine ⟨Description.fields_of_derive hderive, ?_, Schema.exists_decode_iff,
    fun _ => Schema.decode_eq_ok_iff, fun _ => Schema.decode_eq_error_iff, ?_,
    fun row' => Schema.decode_congr⟩
  · intro f hf
    rcases hsupported f hf with ⟨type, htype⟩
    have hdenoted : f.schemaField.type = type := htype.valueType_eq
    rwa [hdenoted]
  · intro f hf c hcolumn
    rcases hsupported f hf with ⟨type, htype⟩
    exact f.takesAbsent hcolumn htype

/-- A row of a reading with its level in two columns. -/
def Row.reading : Row :=
  ⟨[("level", .bool true), ("f", .int 2), ("note", .null), ("level", .text "x")]⟩

/-- The same in another order, with a column for the skipped field and two for the factor. -/
def Row.shuffled : Row :=
  ⟨[("note", .null), ("cached", .int 1), ("f", .int 2), ("f", .null), ("level", .bool true)]⟩

/-- The level is read and the factor is not, which is told before the note is found missing. -/
def Row.unread : Row := ⟨[("f", .text "1.5"), ("level", .bool true), ("level", .null)]⟩

/-- The types of a reading are written out. -/
theorem Description.denotes_reading :
    ∀ f ∈ Description.reading.fields, ∃ type, f.type.Denotes type := by
  refine List.forall_mem_cons.mpr ⟨?_, List.forall_mem_cons.mpr ⟨?_, List.forall_mem_cons.mpr
    ⟨?_, List.forall_mem_singleton.mpr ?_⟩⟩⟩
  · exact ⟨_, TypeExpr.denotes_named (.integer .i8) (by decide)⟩
  · exact ⟨_, TypeExpr.denotes_named .float32 (by decide)⟩
  · exact ⟨_, TypeExpr.denotes_option (TypeExpr.denotes_named .string (by decide))⟩
  · exact ⟨_, TypeExpr.denotes_vector (TypeExpr.denotes_named (.integer .u8) (by decide))⟩

theorem row_decoded_field_by_field_reading :
    Description.reading.derive = .ok Schema.reading ∧
      (∀ f ∈ Description.reading.fields, ∃ type, f.type.Denotes type) ∧
      (∃ record, Schema.reading.decode Row.reading = .ok record) ∧
      Schema.reading.decode Row.reading = Schema.reading.decode Row.shuffled ∧
      Schema.reading.decode Row.unread = .error (.conversion "f" "f32" "text") ∧
      ∃ result, (ValueType.optional .string).Reads .null result := by
  have hderive : Description.reading.derive = .ok Schema.reading := rfl
  have hsupported := Description.denotes_reading
  rcases row_decoded_field_by_field hderive hsupported Row.reading with
    ⟨-, -, hdecoded, -, -, habsent, hsame⟩
  rcases row_decoded_field_by_field hderive hsupported Row.unread with
    ⟨-, -, -, -, hfailed, -, -⟩
  refine ⟨hderive, hsupported, ?_, ?_, ?_, ?_⟩
  · refine hdecoded.mpr ?_
    simp only [← NamedValues.get?_eq_some_iff_first]
    refine List.forall_mem_cons.mpr ⟨?_, List.forall_mem_cons.mpr ⟨?_, List.forall_mem_cons.mpr
      ⟨?_, List.forall_mem_singleton.mpr ?_⟩⟩⟩
    · rintro c ⟨⟩
      exact ⟨.bool true, _, rfl, .plain (.integer (n := 1) rfl (by decide))⟩
    · rintro c ⟨⟩
      exact ⟨.int 2, _, rfl, .plain (.float32 (.int 2))⟩
    · rintro c ⟨⟩
      exact ⟨.null, .null, rfl, .absent _⟩
    · intro c hcolumn
      cases hcolumn
  · refine hsame Row.shuffled fun name hname value => ?_
    rw [← NamedValues.get?_eq_some_iff_first, ← NamedValues.get?_eq_some_iff_first]
    have hnames : name = "level" ∨ name = "f" ∨ name = "note" := by
      simpa [Schema.reading, Schema.columnNames, Schema.columns] using hname
    rcases hnames with rfl | rfl | rfl
    · rfl
    · rfl
    · rfl
  · have hfails : SchemaField.Fails Row.unread
        ⟨"factor", .plain .float32, some ⟨"factor", "f", .float, false, false, none⟩⟩
        (.conversion "f" "f32" "text") := SchemaField.decode_eq_error_iff.mp rfl
    refine (hfailed _).mpr
      ⟨_, ⟨[_], _, rfl, ⟨_, hfails⟩, List.forall_mem_singleton.mpr ?_⟩, hfails⟩
    rintro ⟨cause, hlevel⟩
    have herror := SchemaField.decode_eq_error_iff.mpr hlevel
    cases herror
  · have hnote := habsent ⟨"note", .applied "Option" [.named "String"], []⟩
      (by simp [Description.reading]) _ rfl
    exact (hnote.agrees ⟨_, rfl⟩).mpr rfl

/-- A struct with an optional note, the type of which has a name of its own. -/
def Description.memo : Description where
  kind := .namedStruct
  name := "Memo"
  isPublic := true
  generics := []
  attributes := []
  fields :=
    [⟨"note", .synonym [.mk "Note" []] (.applied "Option" [.named "String"]), []⟩]

/-- The absent value is read as a note, but the column of the note is not nullable. -/
theorem absent_read_without_nullable_column :
    ∃ s, Description.memo.derive = .ok s ∧
      (∀ f ∈ Description.memo.fields, f.type.Denotes (.optional .string)) ∧
      ¬ ∀ f ∈ s.fields, ∀ c, f.column = some c →
        ((∃ result, f.type.Reads .null result) ↔ c.nullable = true) := by
  refine ⟨_, rfl, List.forall_mem_singleton.mpr ?_, fun hagree => ?_⟩
  · exact .synonym (TypeExpr.denotes_option (TypeExpr.denotes_named .string (by decide)))
  · have hnullable := (hagree _ (List.mem_singleton.mpr rfl) _ rfl).mp ⟨_, .absent _⟩
    cases hnullable

end EntitySql
