import EntitySql.Proofs.DepthLimit
import EntitySql.Proofs.FieldAttributes
import Mathlib.Data.List.Nodup

/-! # What a derived schema says of its struct

Columns, handles and values of a derived schema are three lists over the mapped fields of the
struct, in declaration order. Fields have distinct names even where columns do not, so each field
leads to its own column, and a predicate over the handles of a schema has no field without one.

Main statement: `derived_metadata`.
-/

namespace EntitySql

/-! ## Searches -/

/-- The one element of a list that has the property is found. -/
theorem find?_eq_some_of_unique {α : Type} {p : α → Bool} {xs : List α} {x : α} (hx : x ∈ xs)
    (hp : p x = true) (hunique : (xs.filter p).length ≤ 1) : xs.find? p = some x := by
  have hmem : x ∈ xs.filter p := List.mem_filter.mpr ⟨hx, hp⟩
  rw [← List.head?_filter]
  rcases hfilter : xs.filter p with _ | ⟨y, rest⟩
  · rw [hfilter] at hmem
    cases hmem
  · rw [hfilter] at hmem hunique
    obtain rfl : rest = [] := by simpa using hunique
    rw [List.mem_singleton.mp hmem]
    rfl

/-- Where keys are distinct, an element is found by its key. -/
theorem find?_key_of_nodup {α : Type} {key : α → String} {xs : List α} {x : α} (hx : x ∈ xs)
    (hkeys : (xs.map key).Nodup) : xs.find? (fun y => key y == key x) = some x := by
  cases hfind : xs.find? fun y => key y == key x with
  | none => simpa using List.find?_eq_none.mp hfind x hx
  | some y =>
      have hkey : key y = key x := by simpa using List.find?_some hfind
      exact congrArg some (List.inj_on_of_nodup_map hkeys (List.mem_of_find?_eq_some hfind) hx hkey)

/-! ## Mapped fields -/

namespace Description

variable {d : Description} {s : Schema}

/-- No key is skipped, and the items of every field have known keys. -/
theorem field_of_derive (h : d.derive = .ok s) {f : FieldDescription} (hf : f ∈ d.fields) :
    ¬ (f.isSkipped = true ∧ f.isKey = true) ∧ ∀ item ∈ f.items, item.key ∈ columnKeys := by
  rcases derive_eq_ok.mp h with ⟨-, -, table, -, fields, hfields, -, -⟩
  rcases exists_ok_of_mapM hfields hf with ⟨g, hderive⟩
  exact (FieldDescription.derive_eq_schemaField hderive).2

theorem length_keys_of_derive (h : d.derive = .ok s) :
    (s.columns.filter (·.isPrimaryKey)).length ≤ 1 := by
  rcases derive_eq_ok.mp h with ⟨-, -, table, -, fields, -, hkeys, rfl⟩
  exact hkeys

/-- The column of a field is searched among the mapped fields. -/
theorem columnOf?_of_derive (h : d.derive = .ok s) (field : String) :
    s.columnOf? field = (d.mapped.find? (·.name == field)).map (·.column) := by
  rw [Schema.columnOf?, columns_of_derive h, List.find?_map]
  rfl

theorem nodup_mapped (hnames : (d.fields.map (·.name)).Nodup) :
    (d.mapped.map (·.name)).Nodup :=
  hnames.sublist (List.filter_sublist.map _)

theorem columnOf?_mapped (h : d.derive = .ok s) (hnames : (d.fields.map (·.name)).Nodup)
    {f : FieldDescription} (hf : f ∈ d.mapped) : s.columnOf? f.name = some f.column := by
  rw [columnOf?_of_derive h, find?_key_of_nodup hf (nodup_mapped hnames)]
  rfl

theorem columnOf?_skipped (h : d.derive = .ok s) (hnames : (d.fields.map (·.name)).Nodup)
    {f : FieldDescription} (hf : f ∈ d.fields) (hskipped : f.isSkipped = true) :
    s.columnOf? f.name = none := by
  rw [columnOf?_of_derive h, Option.map_eq_none_iff, List.find?_eq_none]
  intro g hg hname
  rcases List.mem_filter.mp hg with ⟨hg, hmapped⟩
  -- a mapped field of the same name would be the same field
  obtain rfl : g = f := List.inj_on_of_nodup_map hnames hg hf (beq_iff_eq.mp hname)
  rw [hskipped] at hmapped
  cases hmapped

end Description

/-! ## Predicates over mapped fields -/

namespace Predicate

variable {columns : Resolver} {p : Predicate} {field : String}

/-- Only a field without a column is an offence of that kind. -/
theorem eq_field_of_offence? {q : Predicate}
    (h : offence? columns q = some (.unmappedField field)) :
    ∃ handle, q = .field handle ∧ columns handle.field = none := by
  cases q with
  | field handle =>
      refine ⟨handle, rfl, ?_⟩
      by_contra hcolumn
      simp [offence?, Option.isSome_iff_ne_none.mpr hcolumn] at h
  | call target method arguments =>
      cases target with
      | none => cases h
      | some target =>
          rw [offence?] at h
          split_ifs at h <;> cases h
  | binary op left right => cases h
  | unary op operand logical => cases h
  | constant value => cases h

/-- A predicate of which every field has a column does not fail for want of one. -/
theorem compile_ne_unmappedField (limit : Option Nat)
    (hmapped : ∀ handle, .field handle ∈ p.subtrees → columns handle.field ≠ none) :
    p.compile columns limit ≠ .error (.unmappedField field) := by
  intro h
  -- a limit adds no error of this kind
  have hfree : p.compile columns none = .error (.unmappedField field) := by
    cases limit with
    | none => exact h
    | some depth =>
        have hlimited : IsLimited depth (p.compile columns (some depth)) (p.compile columns none) :=
          isLimited_compile (by rintro other ⟨⟩) p
        rw [← h]
        refine hlimited.eq_of_ne ?_
        rw [h]
        rintro ⟨⟩
  cases hroot : p.isRoot with
  | false =>
      rw [compile_eq_notAPredicate hroot] at hfree
      cases hfree
  | true =>
      have hfirst := ((reports_compile hroot).eq_error_iff _).mp hfree
      rcases List.exists_of_findSome?_eq_some hfirst with ⟨q, hq, hoffence⟩
      rcases eq_field_of_offence? hoffence with ⟨handle, rfl, hcolumn⟩
      exact hmapped handle hq hcolumn

/-- What compiles fails at most for an operator without a token. -/
theorem compiled_eq_error {limit : Option Nat} {cause : PredicateError}
    (h : p.compiled columns limit = .error cause) :
    p.compile columns limit = .error cause ∨ ∃ op, cause = .unsupportedOperator op := by
  rw [compiled] at h
  cases hcompile : p.compile columns limit with
  | error cause' =>
      left
      simpa [hcompile] using h
  | ok e =>
      right
      cases hop : e.unsupported? with
      | none => simp [hcompile, hop] at h
      | some op => exact ⟨op, by simpa [hcompile, hop] using h.symm⟩

theorem compiled_ne_unmappedField (limit : Option Nat)
    (hmapped : ∀ handle, .field handle ∈ p.subtrees → columns handle.field ≠ none) :
    p.compiled columns limit ≠ .error (.unmappedField field) := by
  intro h
  rcases compiled_eq_error h with hcompile | ⟨op, hop⟩
  · exact compile_ne_unmappedField limit hmapped hcompile
  · cases hop

end Predicate

namespace Schema

/-- A command fails for its predicate exactly where the predicate's part of it fails. -/
theorem command_eq_error (s : Schema) {head : String} {ctx : Context}
    {predicate : Option Predicate} {limit : Option Nat} {cause : PredicateError}
    (h : s.command head ctx predicate limit = .error (.predicate cause)) :
    s.filterTemplate predicate limit = .error cause := by
  rcases s.writes_filter predicate limit with ⟨t, failure, hwrites, hfilter⟩
  rw [command, BoundSql.ofHead] at h
  cases failure with
  | none =>
      rw [hwrites.run_ok ctx] at h
      cases h
  | some cause' =>
      rcases hwrites.run_error ctx with ⟨values, hrun⟩
      rw [hrun] at h
      obtain rfl : cause' = cause := by simpa [Except.mapError] using h
      exact hfilter

/-- The predicate has a column for each of its fields, wherever it is compiled. -/
structure Resolves (s : Schema) (p : Predicate) : Prop where
  compile : ∀ limit field, p.compile s.resolver limit ≠ .error (.unmappedField field)
  condition : ∀ field, s.condition (some p) ≠ .error (.unmappedField field)
  command : ∀ head ctx limit field,
    s.command head ctx (some p) limit ≠ .error (.predicate (.unmappedField field))

theorem resolves_of_mapped {s : Schema} {p : Predicate}
    (hmapped : ∀ handle, .field handle ∈ p.subtrees → s.resolver handle.field ≠ none) :
    s.Resolves p where
  compile limit field := Predicate.compile_ne_unmappedField limit hmapped
  condition field := by
    intro h
    rw [condition_eq, Predicate.compile_toSql_eq] at h
    have hne : p.compiled s.resolver none ≠ .error (.unmappedField field) :=
      Predicate.compiled_ne_unmappedField none hmapped
    refine hne ?_
    cases hcompiled : p.compiled s.resolver none with
    | ok e => simp [hcompiled, Except.map] at h
    | error cause => simpa [hcompiled, Except.map] using h
  command head ctx limit field := by
    intro h
    have hfilter := s.command_eq_error h
    have hne : p.compiled s.resolver limit ≠ .error (.unmappedField field) :=
      Predicate.compiled_ne_unmappedField limit hmapped
    refine hne ?_
    rw [filterTemplate] at hfilter
    cases hcompiled : p.compiled s.resolver limit with
    | ok e => simp [hcompiled, Except.map] at hfilter
    | error cause => simpa [hcompiled, Except.map] using hfilter

end Schema

/-! ## Derived schemas -/

namespace Description

variable {d : Description} {s : Schema}

/-- The schema says of the struct what its fields say, each of them in its place. -/
structure IsDescribed (d : Description) (s : Schema) : Prop where
  columns : s.columns = d.mapped.map (·.column)
  handles : s.handles = d.mapped.map fun f => ⟨f.name, f.fieldClass⟩
  /-- Each handle is that of the column in the same place. -/
  aligned : s.handles = s.columns.map fun c => ⟨c.field, c.type⟩
  /-- The values of a record are those of the mapped fields, each in the place of its field. -/
  values : ∀ record : Record, record.length = d.fields.length →
    (s.toValues record).length = d.mapped.length ∧
      d.mapped.zip (s.toValues record) = d.mappedValues record
  oneKey : (s.columns.filter (·.isPrimaryKey)).length ≤ 1
  key : ∀ c ∈ s.columns, c.isPrimaryKey = true → s.primaryKey? = some c.name
  noKey : s.primaryKey? = none ↔ ∀ c ∈ s.columns, c.isPrimaryKey = false
  /-- A mapped field leads to its own column, also where columns share a name. -/
  mapped : ∀ f ∈ d.mapped,
    s.columnOf? f.name = some f.column ∧ s.resolver f.name = some f.columnName
  skipped : ∀ f ∈ d.fields, f.isSkipped = true →
    s.columnOf? f.name = none ∧ s.resolver f.name = none
  /-- Whatever a predicate is built of, its fields have columns if they are handles. -/
  resolves : ∀ p : Predicate, (∀ handle, .field handle ∈ p.subtrees → handle ∈ s.handles) →
    s.Resolves p

/-- A fault for which no schema is derived, wherever in the struct it is. -/
inductive HasFault (d : Description) : Prop where
  | generic (h : d.generics ≠ [])
  /-- It is not a struct with its fields in braces. Such a struct may have no field at all. -/
  | otherKind (h : d.kind ≠ .namedStruct)
  | secondKey (h : 1 < (d.fields.filter (·.isKey)).length)
  | skippedKey {f : FieldDescription} (hf : f ∈ d.fields) (hkey : f.isKey = true)
      (hskipped : f.isSkipped = true)
  | unknownEntityKey {item : AttributeItem} (hitem : item ∈ d.entityItems)
      (hkey : item.key ≠ "table")
  | unknownColumnKey {f : FieldDescription} {item : AttributeItem} (hf : f ∈ d.fields)
      (hitem : item ∈ f.items) (hkey : item.key ∉ columnKeys)

theorem handles_of_derive (h : d.derive = .ok s) :
    s.handles = d.mapped.map fun f => ⟨f.name, f.fieldClass⟩ := by
  rw [Schema.handles, columns_of_derive h, List.map_map]
  rfl

theorem isDescribed_of_derive (h : d.derive = .ok s) (hnames : (d.fields.map (·.name)).Nodup) :
    d.IsDescribed s where
  columns := columns_of_derive h
  handles := handles_of_derive h
  aligned := rfl
  values := by
    intro record hlength
    rw [toValues_of_derive h, ← map_fst_mappedValues hlength]
    constructor
    · rw [List.length_map, List.length_map]
    · rw [List.zip_map', List.map_id']
  oneKey := length_keys_of_derive h
  key := by
    intro c hc hkey
    rw [Schema.primaryKey?, find?_eq_some_of_unique hc hkey (length_keys_of_derive h)]
    rfl
  noKey := by
    rw [Schema.primaryKey?, Option.map_eq_none_iff, List.find?_eq_none]
    simp
  mapped := by
    intro f hf
    have hcolumn := columnOf?_mapped h hnames hf
    refine ⟨hcolumn, ?_⟩
    rw [Schema.resolver, hcolumn]
    rfl
  skipped := by
    intro f hf hskipped
    have hcolumn := columnOf?_skipped h hnames hf hskipped
    refine ⟨hcolumn, ?_⟩
    rw [Schema.resolver, hcolumn]
    rfl
  resolves := by
    intro p hp
    refine Schema.resolves_of_mapped fun handle hmem => ?_
    have hhandle := hp handle hmem
    rw [handles_of_derive h] at hhandle
    rcases List.mem_map.mp hhandle with ⟨f, hf, rfl⟩
    rw [Schema.resolver, columnOf?_mapped h hnames hf]
    rintro ⟨⟩

theorem setTable_eq_ok {table table' : Option String} {item : AttributeItem}
    (h : setTable table item = .ok table') : item.key = "table" := by
  rw [setTable] at h
  split_ifs at h with hkey
  exact hkey

/-- An attribute of the table that can be read gives no more than its name. -/
theorem applyEntityAttribute_eq_ok {table table' : Option String} {a : Attribute}
    (h : applyEntityAttribute table a = .ok table') :
    ∀ item ∈ a.itemsOf "entity", item.key = "table" := by
  intro item hitem
  unfold Attribute.itemsOf at hitem
  split at hitem
  case h_1 items hform =>
    split_ifs at hitem with hpath
    · rw [applyEntityAttribute, if_pos hpath, Attribute.items, hform] at h
      exact forall_of_foldlM (P := fun item => item.key = "table")
        (fun _ _ _ hset => setTable_eq_ok hset) h item hitem
    · cases hitem
  case h_2 => cases hitem

/-- The items that describe the table of a derived schema give its name. -/
theorem entityItems_of_derive (h : d.derive = .ok s) :
    ∀ item ∈ d.entityItems, item.key = "table" := by
  rcases derive_eq_ok.mp h with ⟨-, -, table, htable, -⟩
  intro item hitem
  rcases List.mem_flatMap.mp hitem with ⟨a, ha, hitem⟩
  exact forall_of_foldlM (P := fun a => ∀ item ∈ a.itemsOf "entity", item.key = "table")
    (fun _ _ _ happly => applyEntityAttribute_eq_ok happly) htable a ha item hitem

/-- No key of a derived schema is skipped, so at most one field is marked. -/
theorem length_keyFields_of_derive (h : d.derive = .ok s) :
    (d.fields.filter (·.isKey)).length ≤ 1 := by
  have hkeys : d.fields.filter (·.isKey) = d.mapped.filter (·.isKey) := by
    rw [mapped, List.filter_filter]
    refine List.filter_congr fun f hf => ?_
    have hskipped := (field_of_derive h hf).1
    cases hkey : f.isKey with
    | false => rfl
    | true => simpa [hkey] using hskipped
  have hcolumns :
      (s.columns.filter (·.isPrimaryKey)).length = (d.mapped.filter (·.isKey)).length := by
    rw [columns_of_derive h, List.filter_map, List.length_map]
    rfl
  rw [hkeys, ← hcolumns]
  exact length_keys_of_derive h

/-- No schema is derived of a faulty struct. -/
theorem not_hasFault_of_derive (h : d.derive = .ok s) : ¬ d.HasFault := by
  rcases derive_eq_ok.mp h with ⟨hgenerics, hkind, -⟩
  rintro (hgeneric | hother | hsecond | ⟨hf, hkey, hskipped⟩ | ⟨hitem, hunknown⟩ |
    ⟨hf, hitem, hunknown⟩)
  · exact hgeneric hgenerics
  · exact hother hkind
  · exact Nat.not_lt.mpr (length_keyFields_of_derive h) hsecond
  · exact (field_of_derive h hf).1 ⟨hskipped, hkey⟩
  · exact hunknown (entityItems_of_derive h _ hitem)
  · exact hunknown ((field_of_derive h hf).2 _ hitem)

end Description

/-- The schema derived of a struct says of it what its fields say, and no schema is derived of a
struct with a fault. -/
theorem derived_metadata (d : Description) (hnames : (d.fields.map (·.name)).Nodup) :
    (∀ s, d.derive = .ok s → d.IsDescribed s) ∧
      (d.HasFault → ∃ cause, d.derive = .error cause) := by
  refine ⟨fun s h => Description.isDescribed_of_derive h hnames, fun hfault => ?_⟩
  cases h : d.derive with
  | error cause => exact ⟨cause, rfl⟩
  | ok s => exact absurd hfault (Description.not_hasFault_of_derive h)

/-- A struct of which two fields share a column's name, one of them after a second thought, and
another has no column. -/
def Description.repeated : Description where
  kind := .namedStruct
  name := "HTTPLog2Entry"
  isPublic := true
  generics := []
  attributes := [⟨"entity", .list [⟨"table", some (.str "log")⟩]⟩]
  fields :=
    [⟨"id", .named "i64", [⟨"primary_key", .bare⟩]⟩,
      ⟨"cached", .applied "Vec" [.named "u8"], [⟨"column", .list [⟨"skip", none⟩]⟩]⟩,
      ⟨"first", .named "i32", [⟨"column", .list [⟨"name", some (.str "x")⟩]⟩]⟩,
      ⟨"second", .applied "Option" [.named "String"],
        [⟨"column", .list [⟨"name", some (.str "y")⟩, ⟨"max_length", some (.int "2")⟩]⟩,
          ⟨"column", .list [⟨"name", some (.str "x")⟩]⟩]⟩]

/-- The same struct with a second key. -/
def Description.twoKeys : Description :=
  { Description.repeated with
    fields := Description.repeated.fields ++ [⟨"other", .named "i64", [⟨"primary_key", .bare⟩]⟩] }

theorem derived_metadata_repeated :
    (∃ s, Description.repeated.derive = .ok s ∧ Description.repeated.IsDescribed s ∧
      s.columnNames = ["id", "x", "x"] ∧ s.columnOf? "second" = s.columns.getLast?) ∧
    ∃ cause, Description.twoKeys.derive = .error cause := by
  constructor
  · obtain ⟨s, hderive⟩ : ∃ s, Description.repeated.derive = .ok s := ⟨_, rfl⟩
    refine ⟨s, hderive, (derived_metadata Description.repeated (by decide)).1 s hderive, ?_⟩
    obtain rfl := Except.ok.inj hderive
    exact ⟨rfl, rfl⟩
  · exact (derived_metadata Description.twoKeys (by decide)).2 (.secondKey (by decide))

/-- A struct with nothing between its braces. -/
def Description.empty : Description where
  kind := .namedStruct
  name := "Empty"
  isPublic := true
  generics := []
  attributes := []
  fields := []

/-- No field of the struct is named, and still it is not refused. -/
theorem schema_derived_without_fields :
    Description.empty.fields = [] ∧
      Description.empty.derive = .ok ⟨"empty", [], "EmptyFields", true⟩ ∧
      ¬ ∃ cause, Description.empty.derive = .error cause := by
  refine ⟨rfl, rfl, ?_⟩
  rintro ⟨cause, herror⟩
  cases herror

end EntitySql
