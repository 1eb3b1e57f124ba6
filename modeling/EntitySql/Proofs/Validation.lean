import EntitySql.Proofs.Template.Command

/-! # Checks of written values

A record is checked before it is written: the first of its written values that is longer than its
column allows decides the error (`reports_written`). Nothing else can fail an insertion
(`reports_insert`).
-/

namespace EntitySql.Schema

/-- The error of a value that is longer than its column allows. -/
def excess? (s : Schema) (column : Column) (value : Value) : Option Error :=
  match column.maxLength, value.length? with
  | some max, some actual =>
    if max < actual then some (.maxLength s.table column.name max actual) else none
  | _, _ => none

/-- The columns that a record writes, with their values, before any check. -/
def writable (s : Schema) (record : Record) : List (Column × Value) :=
  (s.columns.zip (s.toValues record)).filter fun e => !e.1.isPrimaryKey

/-- The error of the first value of a record that is too long. -/
def refusal? (s : Schema) (record : Record) : Option Error :=
  (s.writable record).findSome? fun e => s.excess? e.1 e.2

theorem reports_checkLength (s : Schema) (column : Column) (value : Value) :
    Reports (s.excess? column value) (s.checkLength column value) := by
  unfold excess? checkLength
  cases column.maxLength with
  | none => exact ⟨(), rfl⟩
  | some max =>
      cases value.length? with
      | none => exact ⟨(), rfl⟩
      | some actual =>
          by_cases hlt : max < actual
          · simp only [if_pos hlt]
            exact rfl
          · simp only [if_neg hlt]
            exact ⟨(), rfl⟩

theorem reports_assign (s : Schema) (column : Column) (value : Value) :
    Reports (s.excess? column value) (s.assign column value) :=
  (s.reports_checkLength column value).pure_bind

theorem reports_written (s : Schema) (record : Record) :
    Reports (s.refusal? record) (s.written record) :=
  Reports.mapM fun e _ => s.reports_assign e.1 e.2

/-- An insertion fails for a value that is too long, and for nothing else. -/
theorem reports_insert (s : Schema) (record : Record) :
    Reports (s.refusal? record) (s.insert record) := by
  rw [insert_eq]
  exact (s.reports_written record).pure_bind

/-- The insertions of many records fail with the first record that has a value too long. -/
theorem reports_insert_all (s : Schema) (records : List Record) :
    Reports (records.findSome? s.refusal?) (records.mapM s.insert) :=
  Reports.mapM fun record _ => s.reports_insert record

end EntitySql.Schema
