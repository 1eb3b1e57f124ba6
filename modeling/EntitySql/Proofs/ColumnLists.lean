import EntitySql.Proofs.Metadata
import EntitySql.Proofs.Refusal

/-! # Lists of columns

Whatever is inserted or updated, the columns that a command lists are read off its text. A list of
columns to insert or to set is never empty: without a column an insertion has no list, and an update
is refused. It names a column twice exactly when two of the written fields share a column's name or,
for named columns, when a name is given twice, which no command looks for. A selection lists columns
as soon as a field is mapped.

Main statement: `columns_listed_once_iff`.
-/

namespace EntitySql

namespace Schema

variable {s : Schema} {predicate : Option Predicate} {limit : Option Nat}

/-- What a command is read as, it is read as when it is built. -/
theorem ReadsAs.of_ok {α : Type} {command : Except Error BoundSql} {read : BoundSql → Option α}
    {said : α} {sql : BoundSql} (h : s.ReadsAs predicate limit command read said)
    (hsql : command = .ok sql) : read sql = some said := by
  rw [ReadsAs] at h
  cases hcondition : s.conditionWithin limit predicate with
  | error cause =>
      rw [hcondition] at h
      rw [hsql] at h
      cases h
  | ok filter =>
      rw [hcondition] at h
      rcases h with ⟨sql', hsql', hread⟩
      obtain rfl := Except.ok.inj (hsql.symm.trans hsql')
      exact hread

/-- An update of named columns sets the names as they are given, each to its value. -/
theorem update?_updateColumns {columns : List (String × Value)} {sql : BoundSql}
    (h : s.updateColumns columns predicate limit = .ok sql) :
    columns ≠ [] ∧ sql.update? = some ⟨objectParts s.table, columns⟩ := by
  have hne : columns ≠ [] :=
    ((s.updateColumns_outcome columns predicate limit).1.mp ⟨sql, h⟩).2.1
  rcases bind_eq_ok.mp h with ⟨values, hvalues, hupdate⟩
  have hset := (ne_nil_of_mapM hvalues).mpr hne
  have hreads := readsAs_command (s.updateValues_eq hset predicate limit) fun t ht =>
    update?_updateHead ht hset
  have hread := hreads.of_ok hupdate
  change sql.update? = some ⟨objectParts s.table, assignments values⟩ at hread
  rw [assignments_of_assignNamed hvalues] at hread
  exact ⟨hne, hread⟩

end Schema

namespace Description

variable {d : Description} {s : Schema} {record : Record} {sql : BoundSql}

/-- An insertion lists the columns of the written fields. -/
theorem columns_insert (h : d.derive = .ok s) (hlength : record.length = d.fields.length)
    (hsql : s.insert record = .ok sql) (hne : d.writtenFields ≠ []) :
    ∃ insertion, sql.insertion? = some insertion ∧
      insertion.columns = d.writtenFields.map (·.columnName) := by
  have hfits : d.Fits record :=
    fits_iff_takes.mpr ((insert_outcome h hlength).1.mp ⟨sql, hsql⟩)
  rcases insertion?_of_derive h hlength hfits hne with ⟨sql', hsql', hread⟩
  obtain rfl := Except.ok.inj (hsql.symm.trans hsql')
  exact ⟨_, hread, rfl⟩

/-- An update sets the columns of the written fields, and there are some. -/
theorem columns_update (h : d.derive = .ok s) (hlength : record.length = d.fields.length)
    {predicate : Option Predicate} {limit : Option Nat}
    (hsql : s.update record predicate limit = .ok sql) :
    d.writtenFields ≠ [] ∧ ∃ update, sql.update? = some update ∧
      update.assignments.map (·.1) = d.writtenFields.map (·.columnName) := by
  rcases (update_outcome h hlength predicate limit).1.mp ⟨sql, hsql⟩ with ⟨htakes, hne, -⟩
  have hfits : d.Fits record := fits_iff_takes.mpr htakes
  refine ⟨hne, _, (update?_of_derive h hlength hfits hne predicate limit).of_ok hsql, ?_⟩
  rw [← map_fst_writtenValues hlength, List.map_map, List.map_map]
  rfl

end Description

/-- A list of columns in a command that is built is not empty: an insertion without columns is one
of defaults, and a selection has columns if a field is mapped. A list to insert or to set names a
column twice exactly when two written fields share its name, or when it is named twice. -/
theorem columns_listed_once_iff {d : Description} {s : Schema} (hderive : d.derive = .ok s) :
    (∀ record sql, record.length = d.fields.length → s.insert record = .ok sql →
      sql = ⟨"INSERT INTO " ++ Bracketed.quoteObject s.table ++
          " OUTPUT INSERTED.* DEFAULT VALUES", .empty⟩ ∨
        ∃ insertion, sql.insertion? = some insertion ∧ insertion.columns ≠ [] ∧
          (insertion.columns.Nodup ↔ (d.writtenFields.map (·.columnName)).Nodup)) ∧
    (∀ record predicate limit sql, record.length = d.fields.length →
      s.update record predicate limit = .ok sql →
        ∃ update, sql.update? = some update ∧ update.assignments ≠ [] ∧
          ((update.assignments.map (·.1)).Nodup ↔
            (d.writtenFields.map (·.columnName)).Nodup)) ∧
    (∀ columns predicate limit sql, s.updateColumns columns predicate limit = .ok sql →
      ∃ update, sql.update? = some update ∧ update.assignments ≠ [] ∧
        ((update.assignments.map (·.1)).Nodup ↔ (columns.map (·.1)).Nodup)) ∧
    ∀ count predicate limit sql, s.selectTop count predicate limit = .ok sql →
      ∃ selection, sql.selection? = some selection ∧ (d.mapped ≠ [] → selection.columns ≠ []) := by
  refine ⟨?_, ?_, ?_, ?_⟩
  · intro record sql hlength hsql
    by_cases hnone : d.writtenFields = []
    · have hfits : d.Fits record := Description.fits_iff_takes.mpr
        ((Description.insert_outcome hderive hlength).1.mp ⟨sql, hsql⟩)
      have hdefaults := (Description.defaults_of_derive hderive hlength hfits hnone).1
      exact Or.inl (Except.ok.inj (hsql.symm.trans hdefaults))
    · rcases Description.columns_insert hderive hlength hsql hnone with
        ⟨insertion, hread, hcolumns⟩
      refine Or.inr ⟨insertion, hread, ?_, by rw [hcolumns]⟩
      rw [hcolumns]
      exact mt List.map_eq_nil_iff.mp hnone
  · intro record predicate limit sql hlength hsql
    rcases Description.columns_update hderive hlength hsql with ⟨hne, update, hread, hcolumns⟩
    refine ⟨update, hread, ?_, by rw [hcolumns]⟩
    intro hnil
    rw [hnil] at hcolumns
    exact hne (List.map_eq_nil_iff.mp hcolumns.symm)
  · intro columns predicate limit sql hsql
    rcases Schema.update?_updateColumns hsql with ⟨hne, hread⟩
    exact ⟨_, hread, hne, Iff.rfl⟩
  · intro count predicate limit sql hsql
    have hread := (Description.selection?_of_derive hderive count predicate limit).of_ok hsql
    exact ⟨_, hread, fun hmapped => mt List.map_eq_nil_iff.mp hmapped⟩

/-- No two of the written fields of an event share a column, and neither do the named columns, of
which one is the key. -/
theorem columns_listed_once_iff_event :
    Description.event.derive = .ok Schema.event ∧
      (∃ sql update, Schema.event.update Record.event none none = .ok sql ∧
        sql.update? = some update ∧ update.assignments ≠ [] ∧
        (update.assignments.map (·.1)).Nodup) ∧
      (∃ sql update, Schema.event.updateColumns [("id", .int 1), ("message", .text "m")] none none =
          .ok sql ∧
        sql.update? = some update ∧ update.assignments ≠ [] ∧
        (update.assignments.map (·.1)).Nodup) ∧
      ∃ sql selection, Schema.event.selectTop 5 none none = .ok sql ∧
        sql.selection? = some selection ∧ selection.columns ≠ [] := by
  have hderive : Description.event.derive = .ok Schema.event := rfl
  rcases columns_listed_once_iff hderive with ⟨-, hupdate, hnamed, hselect⟩
  refine ⟨hderive, ?_, ?_, ?_⟩
  · obtain ⟨sql, hsql⟩ : ∃ sql, Schema.event.update Record.event none none = .ok sql := ⟨_, rfl⟩
    rcases hupdate _ _ _ sql rfl hsql with ⟨update, hread, hne, honce⟩
    exact ⟨sql, update, hsql, hread, hne, honce.mpr (by decide)⟩
  · obtain ⟨sql, hsql⟩ : ∃ sql, Schema.event.updateColumns
        [("id", .int 1), ("message", .text "m")] none none = .ok sql := ⟨_, rfl⟩
    rcases hnamed _ _ _ sql hsql with ⟨update, hread, hne, honce⟩
    exact ⟨sql, update, hsql, hread, hne, honce.mpr (by decide)⟩
  · obtain ⟨sql, hsql⟩ : ∃ sql, Schema.event.selectTop 5 none none = .ok sql := ⟨_, rfl⟩
    rcases hselect _ _ _ sql hsql with ⟨selection, hread, hcolumns⟩
    exact ⟨sql, selection, hsql, hread, hcolumns (List.cons_ne_nil _ _)⟩

/-- Nothing keeps a column from being listed twice: neither an insertion, of a struct with two
fields for one column, nor an update that is given a column twice. -/
theorem column_listed_twice :
    (∃ s sql insertion, Description.repeated.derive = .ok s ∧
      s.insert [.int 7, .bytes [], .int 1, .null] = .ok sql ∧
      sql.insertion? = some insertion ∧ ¬ insertion.columns.Nodup) ∧
    ∃ sql update, Schema.event.updateColumns [("id", .int 1), ("id", .int 2)] none none = .ok sql ∧
      sql.update? = some update ∧ ¬ (update.assignments.map (·.1)).Nodup := by
  constructor
  · obtain ⟨s, hderive⟩ : ∃ s, Description.repeated.derive = .ok s := ⟨_, rfl⟩
    have hlength : List.length [Value.int 7, .bytes [], .int 1, .null] =
      Description.repeated.fields.length := rfl
    have hfits : Description.repeated.Fits [.int 7, .bytes [], .int 1, .null] := by decide
    rcases (Description.insert_outcome hderive hlength).1.mpr
      (Description.fits_iff_takes.mp hfits) with ⟨sql, hsql⟩
    rcases Description.columns_insert hderive hlength hsql (List.cons_ne_nil _ _) with
      ⟨insertion, hread, hcolumns⟩
    refine ⟨s, sql, insertion, hderive, hsql, hread, ?_⟩
    rw [hcolumns]
    decide
  · obtain ⟨sql, hsql⟩ : ∃ sql, Schema.event.updateColumns
        [("id", .int 1), ("id", .int 2)] none none = .ok sql := ⟨_, rfl⟩
    exact ⟨sql, _, hsql, (Schema.update?_updateColumns hsql).2, by decide⟩

end EntitySql
