import EntitySql.NamedValues
import Mathlib.Data.List.Nodup

/-! # Look-ups by name

A look-up finds the first entry of a name, and nothing exactly where no entry has the name. Where
all entries of a name agree it does not matter which of them is the first.
-/

namespace EntitySql.NamedValues

variable {vs : NamedValues} {name : String} {value : Value}

/-- What a look-up finds is an entry. -/
theorem mem_entries_of_get? (h : vs.get? name = some value) : (name, value) ∈ vs.entries := by
  rcases List.lookup_eq_some_iff.mp h with ⟨before, after, hentries, -⟩
  rw [hentries]
  exact List.mem_append_right before List.mem_cons_self

/-- A look-up finds nothing exactly where no entry has the name. -/
theorem get?_eq_none_iff : vs.get? name = none ↔ name ∉ vs.names := by
  rw [get?, List.lookup_eq_none_iff, names, List.mem_map, not_exists]
  constructor
  · rintro h entry ⟨hmem, rfl⟩
    simpa using h entry hmem
  · intro h entry hmem
    rw [bne_iff_ne]
    exact fun heq => h entry ⟨hmem, heq.symm⟩

/-- A name whose entries all hold one value is found with that value. -/
theorem get?_eq_some_of_unique (hmem : (name, value) ∈ vs.entries)
    (hunique : ∀ other, (name, other) ∈ vs.entries → other = value) :
    vs.get? name = some value := by
  cases hget : vs.get? name with
  | none =>
      have hname : name ∈ vs.names := List.mem_map.mpr ⟨(name, value), hmem, rfl⟩
      exact absurd hname (get?_eq_none_iff.mp hget)
  | some other => rw [hunique other (mem_entries_of_get? hget)]

/-- Where no name is repeated a look-up finds the one entry of the name. -/
theorem get?_eq_some_iff (h : vs.names.Nodup) :
    vs.get? name = some value ↔ (name, value) ∈ vs.entries := by
  constructor
  · exact mem_entries_of_get?
  · intro hmem
    refine get?_eq_some_of_unique hmem fun other hother => ?_
    have hentry : (name, other) = (name, value) := List.inj_on_of_nodup_map h hother hmem rfl
    exact congrArg Prod.snd hentry

end EntitySql.NamedValues
