import EntitySql.Proofs.Checked
import EntitySql.Schema.Derive

/-! # Derived schemas

What has been checked of a struct from which a schema is derived, and what the schema is then
(`FieldDescription.derive_eq_ok`, `Description.derive_eq_ok`).
-/

namespace EntitySql

/-- The settings of a field before its attributes are read. -/
def FieldDescription.start (f : FieldDescription) : ColumnSettings := ⟨f.name, false, none, false⟩

/-- The column of a field with the settings that its attributes have made. -/
def FieldDescription.columnOf (f : FieldDescription) (settings : ColumnSettings) : Column where
  field := f.name
  name := settings.name
  type := (f.type.optional?.getD f.type).fieldClass
  nullable := f.type.optional?.isSome
  isPrimaryKey := settings.isPrimaryKey
  maxLength := settings.maxLength

/-- A field is derived if its attributes can be read and do not skip a key. -/
theorem FieldDescription.derive_eq_ok {f : FieldDescription} {g : SchemaField} :
    f.derive = .ok g ↔ ∃ settings, f.attributes.foldlM ColumnSettings.apply f.start = .ok settings ∧
      ¬ (settings.skip = true ∧ settings.isPrimaryKey = true) ∧
      g = ⟨f.name, f.type.valueType,
        if settings.skip then none else some (f.columnOf settings)⟩ := by
  unfold derive
  rw [bind_eq_ok]
  refine exists_congr fun settings => and_congr Iff.rfl ?_
  refine guard_eq_ok.trans ?_
  rw [Bool.and_eq_true]
  refine and_congr Iff.rfl ⟨fun h => (Except.ok.inj h).symm, ?_⟩
  rintro rfl
  rfl

/-- A schema is derived from a struct that is not generic, has its fields in braces and at most one
key, if its attributes and those of its fields can be read. -/
theorem Description.derive_eq_ok {d : Description} {s : Schema} :
    d.derive = .ok s ↔ d.generics = [] ∧ d.kind = .namedStruct ∧
      ∃ table, d.attributes.foldlM applyEntityAttribute none = .ok table ∧
      ∃ fields, d.fields.mapM FieldDescription.derive = .ok fields ∧
        ((fields.filterMap (·.column)).filter (·.isPrimaryKey)).length ≤ 1 ∧
        s = ⟨table.getD (SnakeCase.ofName d.name), fields, handleTypeName d.name, d.isPublic⟩ := by
  unfold derive
  refine guard_eq_ok.trans (and_congr (by simp) ?_)
  refine guard_eq_ok.trans (and_congr (by simp) ?_)
  rw [bind_eq_ok]
  refine exists_congr fun table => and_congr Iff.rfl ?_
  rw [bind_eq_ok]
  refine exists_congr fun fields => and_congr Iff.rfl ?_
  refine guard_eq_ok.trans (and_congr Nat.not_lt ⟨fun h => (Except.ok.inj h).symm, ?_⟩)
  rintro rfl
  rfl

end EntitySql
