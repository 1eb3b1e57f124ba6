import EntitySql.Proofs.WrittenColumns

/-! # Refused writes

No command writes a value that is longer than its column allows or a column that the table does not
have. What is at fault with a column and its value is said once, without the checks: a text is
measured in characters and binary data in bytes, against the greatest length of the column. An
insertion fails with the fault of the first column at fault. An update fails with that fault as
well, then for want of something to set, and only then with the error of its predicate; for columns
given by name it is the first entry at fault, and a name means the first column that has it.

Main statement: `write_refused_at_first_fault`.
-/

namespace EntitySql

/-! ## Faults -/

/-- The value is no longer than `max`: a text in characters and binary data in bytes. -/
def Value.FitsIn (max : Nat) : Value → Prop
  | .text t => t.length ≤ max
  | .bytes bs => bs.length ≤ max
  | _ => True

/-- The column's greatest length, if it has one, lets the value in. -/
def Column.Takes (c : Column) (value : Value) : Prop :=
  ∀ max, c.maxLength = some max → value.FitsIn max

/-- What is at fault with a column and the value that is written to it. -/
inductive Schema.Refuses (s : Schema) : Column × Value → Error → Prop where
  | text {c : Column} {max : Nat} {t : String} (hmax : c.maxLength = some max)
      (hlong : max < t.length) : Refuses s (c, .text t) (.maxLength s.table c.name max t.length)
  | bytes {c : Column} {max : Nat} {bs : List UInt8} (hmax : c.maxLength = some max)
      (hlong : max < bs.length) :
      Refuses s (c, .bytes bs) (.maxLength s.table c.name max bs.length)

/-- What is at fault with a name and the value that is written to the column of the name. -/
inductive Schema.Offends (s : Schema) : String × Value → Error → Prop where
  | unknown {name : String} {value : Value} (h : ∀ c ∈ s.columns, c.name ≠ name) :
      Offends s (name, value) (.unknownColumn s.table name)
  | refused {name : String} {value : Value} {c : Column} {cause : Error}
      (hfirst : FirstWith (·.name = name) s.columns c) (h : s.Refuses (c, value) cause) :
      Offends s (name, value) cause

/-- What an update of entries fails with: the fault of the first entry at fault, else that there is
nothing to set, and else the error of its predicate. -/
inductive Schema.UpdateFails {α : Type} (s : Schema) (fault : α → Error → Prop) (entries : List α)
    (predicate : Option Predicate) (limit : Option Nat) : Error → Prop where
  | entry {cause : Error} (h : FirstFault fault entries cause) :
      UpdateFails s fault entries predicate limit cause
  | nothing (hnil : entries = []) :
      UpdateFails s fault entries predicate limit (.nothingToUpdate s.table)
  | predicate {cause : PredicateError} (hfaultless : ∀ e ∈ entries, ∀ reason, ¬ fault e reason)
      (hne : entries ≠ []) (h : s.conditionWithin limit predicate = .error cause) :
      UpdateFails s fault entries predicate limit (.predicate cause)

/-! ## Values and columns -/

namespace Schema

variable {s : Schema} {predicate : Option Predicate} {limit : Option Nat}

/-- A column takes what is not refused. -/
theorem takes_iff_not_refuses (s : Schema) {entry : Column × Value} :
    entry.1.Takes entry.2 ↔ ∀ cause, ¬ s.Refuses entry cause := by
  constructor
  · intro htakes cause hrefuses
    cases hrefuses with
    | text hmax hlong => exact Nat.not_le.mpr hlong (htakes _ hmax)
    | bytes hmax hlong => exact Nat.not_le.mpr hlong (htakes _ hmax)
  · intro hnone max hmax
    rcases entry with ⟨c, value⟩
    cases value with
    | text t => exact Nat.not_lt.mp fun hlong => hnone _ (.text hmax hlong)
    | bytes bs => exact Nat.not_lt.mp fun hlong => hnone _ (.bytes hmax hlong)
    | _ => exact True.intro

/-- The excess of a value is what it is refused for. -/
theorem excess?_eq_some_iff {column : Column} {value : Value} {cause : Error} :
    s.excess? column value = some cause ↔ s.Refuses (column, value) cause := by
  constructor
  · intro h
    rw [excess?] at h
    cases hmax : column.maxLength with
    | none => simp [hmax] at h
    | some max =>
        cases value with
        | text t =>
            simp only [hmax, Value.length?, String.length_toList, Option.ite_none_right_eq_some,
              Option.some.injEq] at h
            rcases h with ⟨hlong, rfl⟩
            exact .text hmax hlong
        | bytes bs =>
            simp only [hmax, Value.length?, Option.ite_none_right_eq_some, Option.some.injEq] at h
            rcases h with ⟨hlong, rfl⟩
            exact .bytes hmax hlong
        | _ => simp [hmax, Value.length?] at h
  · intro h
    cases h with
    | text hmax hlong => simp [excess?, hmax, Value.length?, String.length_toList, hlong]
    | bytes hmax hlong => simp [excess?, hmax, Value.length?, hlong]

theorem assign_eq_error_iff {entry : Column × Value} {cause : Error} :
    s.assign entry.1 entry.2 = .error cause ↔ s.Refuses entry cause := by
  rw [(s.reports_assign entry.1 entry.2).eq_error_iff, excess?_eq_some_iff]

theorem columnNamed?_eq_some_iff {name : String} {c : Column} :
    s.columnNamed? name = some c ↔ FirstWith (·.name = name) s.columns c :=
  firstWith_iff_find?.symm

theorem columnNamed?_eq_none_iff {name : String} :
    s.columnNamed? name = none ↔ ∀ c ∈ s.columns, c.name ≠ name := by
  rw [columnNamed?, List.find?_eq_none]
  simp only [beq_iff_eq, ne_eq]

/-- A name is looked up among the columns, and its first column checks the value. -/
theorem assignNamed_eq_error_iff {name : String} {value : Value} {cause : Error} :
    s.assignNamed name value = .error cause ↔ s.Offends (name, value) cause := by
  rw [assignNamed]
  cases hnamed : s.columnNamed? name with
  | none =>
      constructor
      · intro h
        rw [← Except.error.inj h]
        exact .unknown (columnNamed?_eq_none_iff.mp hnamed)
      · intro h
        cases h with
        | unknown _ => rfl
        | refused hfirst _ =>
            rw [← columnNamed?_eq_some_iff, hnamed] at hfirst
            cases hfirst
  | some c =>
      constructor
      · intro h
        exact .refused (columnNamed?_eq_some_iff.mp hnamed) (assign_eq_error_iff.mp h)
      · intro h
        cases h with
        | unknown hunknown =>
            rw [← columnNamed?_eq_none_iff, hnamed] at hunknown
            cases hunknown
        | refused hfirst hrefuses =>
            rw [← columnNamed?_eq_some_iff, hnamed] at hfirst
            obtain rfl := Option.some.inj hfirst
            exact assign_eq_error_iff.mpr hrefuses

/-- A name is not at fault if it has a first column and this takes the value. -/
theorem not_offends_iff {entry : String × Value} :
    (∀ cause, ¬ s.Offends entry cause) ↔
      ∃ c, FirstWith (·.name = entry.1) s.columns c ∧ c.Takes entry.2 := by
  constructor
  · intro hfaultless
    cases hnamed : s.columnNamed? entry.1 with
    | none => exact absurd (.unknown (columnNamed?_eq_none_iff.mp hnamed)) (hfaultless _)
    | some c =>
        have hfirst := columnNamed?_eq_some_iff.mp hnamed
        exact ⟨c, hfirst, (takes_iff_not_refuses s).mpr fun cause hrefuses =>
          hfaultless cause (.refused hfirst hrefuses)⟩
  · rintro ⟨c, hfirst, htakes⟩ cause hoffends
    have hnamed := columnNamed?_eq_some_iff.mpr hfirst
    cases hoffends with
    | unknown hunknown =>
        rw [columnNamed?_eq_none_iff.mpr hunknown] at hnamed
        cases hnamed
    | refused hother hrefuses =>
        rw [columnNamed?_eq_some_iff.mpr hother] at hnamed
        obtain rfl := Option.some.inj hnamed
        exact (takes_iff_not_refuses s).mp htakes cause hrefuses

/-! ## Updates of entries

A record and a list of named values are both updated by a check of their entries and an update of
the values that have passed it.
-/

/-- Values that have passed their checks are set if there are some and the predicate has a
condition. -/
theorem exists_updateValues_iff {values : List (Column × Value)} :
    (∃ sql, s.updateValues values predicate limit = .ok sql) ↔
      values ≠ [] ∧ ∃ filter, s.conditionWithin limit predicate = .ok filter := by
  by_cases hvalues : values = []
  · subst hvalues
    constructor
    · rintro ⟨sql, hsql⟩
      cases hsql
    · rintro ⟨hne, -⟩
      exact absurd rfl hne
  · rw [s.updateValues_filteredBy hvalues]
    cases s.conditionWithin limit predicate with
    | error reason => simp [Except.map, Except.mapError]
    | ok filter => simp [hvalues, Except.map, Except.mapError]

theorem updateValues_eq_error_iff {values : List (Column × Value)} {cause : Error} :
    s.updateValues values predicate limit = .error cause ↔
      (values = [] ∧ cause = .nothingToUpdate s.table) ∨
        values ≠ [] ∧ ∃ reason, s.conditionWithin limit predicate = .error reason ∧
          cause = .predicate reason := by
  by_cases hvalues : values = []
  · subst hvalues
    have hnothing : s.updateValues [] predicate limit = .error (.nothingToUpdate s.table) := rfl
    rw [hnothing]
    simp [eq_comm]
  · rw [s.updateValues_filteredBy hvalues]
    cases s.conditionWithin limit predicate with
    | error reason => simp [hvalues, Except.map, Except.mapError, eq_comm]
    | ok filter => simp [hvalues, Except.map, Except.mapError]

section Entries

variable {α : Type} {check : α → Except Error (Column × Value)} {fault : α → Error → Prop}
  {entries : List α}

/-- Entries are checked first, and a successful check leaves as many values as there are entries. -/
theorem ne_nil_of_mapM {values : List (Column × Value)} (h : entries.mapM check = .ok values) :
    values ≠ [] ↔ entries ≠ [] := by
  have hlength := (forall₂_of_mapM h).length_eq
  rw [← List.length_pos_iff, ← List.length_pos_iff, hlength]

theorem exists_checked_update_iff
    (hfault : ∀ e ∈ entries, ∀ cause, check e = .error cause ↔ fault e cause) :
    (∃ sql, (entries.mapM check >>= fun values => s.updateValues values predicate limit) =
        .ok sql) ↔
      (∀ e ∈ entries, ∀ cause, ¬ fault e cause) ∧ entries ≠ [] ∧
        ∃ filter, s.conditionWithin limit predicate = .ok filter := by
  rw [← exists_mapM_ok_iff hfault]
  constructor
  · rintro ⟨sql, hsql⟩
    rcases bind_eq_ok.mp hsql with ⟨values, hvalues, hupdate⟩
    have hset := exists_updateValues_iff.mp ⟨sql, hupdate⟩
    rw [ne_nil_of_mapM hvalues] at hset
    exact ⟨⟨values, hvalues⟩, hset⟩
  · rintro ⟨⟨values, hvalues⟩, hupdate⟩
    rw [← ne_nil_of_mapM hvalues] at hupdate
    rw [hvalues]
    exact exists_updateValues_iff.mpr hupdate

theorem checked_update_eq_error_iff
    (hfault : ∀ e ∈ entries, ∀ cause, check e = .error cause ↔ fault e cause) {cause : Error} :
    (entries.mapM check >>= fun values => s.updateValues values predicate limit) = .error cause ↔
      s.UpdateFails fault entries predicate limit cause := by
  rw [bind_eq_error, mapM_eq_error_iff_firstFault hfault]
  constructor
  · rintro (hfirst | ⟨values, hvalues, hupdate⟩)
    · exact .entry hfirst
    -- the checked values are as many as the entries, so there are none of both or some
    · have hne := ne_nil_of_mapM hvalues
      rcases updateValues_eq_error_iff.mp hupdate with
        ⟨hnil, rfl⟩ | ⟨hset, reason, hcondition, rfl⟩
      · exact .nothing ((not_iff_not.mp hne).mp hnil)
      · have hfaultless := (exists_mapM_ok_iff hfault).mp ⟨values, hvalues⟩
        exact .predicate hfaultless (hne.mp hset) hcondition
  · intro h
    cases h with
    | entry hfirst => exact Or.inl hfirst
    | nothing hnil =>
        subst hnil
        exact Or.inr ⟨[], rfl, rfl⟩
    | predicate hfaultless hset hcondition =>
        rcases (exists_mapM_ok_iff hfault).mpr hfaultless with ⟨values, hvalues⟩
        have hne := (ne_nil_of_mapM hvalues).mpr hset
        exact Or.inr ⟨values, hvalues,
          updateValues_eq_error_iff.mpr (Or.inr ⟨hne, _, hcondition, rfl⟩)⟩

end Entries

end Schema

/-! ## Derived schemas -/

namespace Description

variable {d : Description} {s : Schema} {record : Record}

/-- A record fits exactly when each column that it writes takes its value. -/
theorem fits_iff_takes : d.Fits record ↔ ∀ e ∈ d.entries record, e.1.Takes e.2 := by
  have hfits : ∀ (f : FieldDescription) value, f.fits value = true ↔ f.column.Takes value := by
    intro f value
    have hlength : f.column.maxLength = f.maxLength? := rfl
    rw [FieldDescription.fits, Column.Takes, hlength]
    cases f.maxLength? with
    | none => simp
    | some max => cases value <;> simp [Value.length?, Value.FitsIn, String.length_toList]
  simp only [entries, Description.Fits, List.forall_mem_map, hfits]

/-- The checks of a record are those of its entries. -/
theorem written_eq_mapM (h : d.derive = .ok s) (hlength : record.length = d.fields.length) :
    s.written record = (d.entries record).mapM fun e => s.assign e.1 e.2 := by
  rw [← writable_of_derive h hlength]
  rfl

/-- An insertion succeeds exactly when each column takes its value, and fails otherwise with the
first column that does not. -/
theorem insert_outcome (h : d.derive = .ok s) (hlength : record.length = d.fields.length) :
    ((∃ sql, s.insert record = .ok sql) ↔ ∀ e ∈ d.entries record, e.1.Takes e.2) ∧
    ∀ cause, s.insert record = .error cause ↔ FirstFault s.Refuses (d.entries record) cause := by
  have hfault : ∀ e ∈ d.entries record, ∀ cause,
      s.assign e.1 e.2 = .error cause ↔ s.Refuses e cause := fun _ _ _ => Schema.assign_eq_error_iff
  have hinsert := s.insert_eq record
  rw [written_eq_mapM h hlength] at hinsert
  constructor
  · simp only [Schema.takes_iff_not_refuses s]
    rw [← exists_mapM_ok_iff hfault, hinsert]
    constructor
    · rintro ⟨sql, hsql⟩
      rcases map_eq_ok.mp hsql with ⟨values, hvalues, -⟩
      exact ⟨values, hvalues⟩
    · rintro ⟨values, hvalues⟩
      exact ⟨_, map_eq_ok.mpr ⟨values, hvalues, rfl⟩⟩
  · intro cause
    rw [hinsert, map_eq_error, mapM_eq_error_iff_firstFault hfault]

theorem update_outcome (h : d.derive = .ok s) (hlength : record.length = d.fields.length)
    (predicate : Option Predicate) (limit : Option Nat) :
    ((∃ sql, s.update record predicate limit = .ok sql) ↔
      (∀ e ∈ d.entries record, e.1.Takes e.2) ∧ d.writtenFields ≠ [] ∧
        ∃ filter, s.conditionWithin limit predicate = .ok filter) ∧
    ∀ cause, s.update record predicate limit = .error cause ↔
      s.UpdateFails s.Refuses (d.entries record) predicate limit cause := by
  have hfault : ∀ e ∈ d.entries record, ∀ cause,
      s.assign e.1 e.2 = .error cause ↔ s.Refuses e cause := fun _ _ _ => Schema.assign_eq_error_iff
  rw [Schema.update, written_eq_mapM h hlength]
  refine ⟨?_, fun cause => Schema.checked_update_eq_error_iff hfault⟩
  simp only [Schema.takes_iff_not_refuses s]
  rw [Schema.exists_checked_update_iff hfault, ne_eq, entries_eq_nil_iff hlength]

end Description

theorem Schema.updateColumns_outcome (s : Schema) (columns : List (String × Value))
    (predicate : Option Predicate) (limit : Option Nat) :
    ((∃ sql, s.updateColumns columns predicate limit = .ok sql) ↔
      (∀ e ∈ columns, ∃ c, FirstWith (·.name = e.1) s.columns c ∧ c.Takes e.2) ∧ columns ≠ [] ∧
        ∃ filter, s.conditionWithin limit predicate = .ok filter) ∧
    ∀ cause, s.updateColumns columns predicate limit = .error cause ↔
      s.UpdateFails s.Offends columns predicate limit cause := by
  have hfault : ∀ e ∈ columns, ∀ cause,
      s.assignNamed e.1 e.2 = .error cause ↔ s.Offends e cause :=
    fun e _ cause => assignNamed_eq_error_iff
  rw [updateColumns]
  refine ⟨?_, fun cause => checked_update_eq_error_iff hfault⟩
  simp only [← not_offends_iff]
  exact exists_checked_update_iff hfault

/-- A record is inserted exactly when each of its written values fits into its column, and updated
exactly when there is a column to write besides and the predicate has a condition. Named columns are
updated exactly when some are named, each name has a first column that takes the value, and the
predicate has a condition. The error is the fault of the first column, or the first entry, at fault;
without one it is that there is nothing to set, and only then that of the predicate. -/
theorem write_refused_at_first_fault {d : Description} {s : Schema} (hderive : d.derive = .ok s) :
    s.columns = d.mapped.map (·.column) ∧
    (∀ record, record.length = d.fields.length →
      ((∃ sql, s.insert record = .ok sql) ↔ ∀ e ∈ d.entries record, e.1.Takes e.2) ∧
      (∀ cause, s.insert record = .error cause ↔ FirstFault s.Refuses (d.entries record) cause) ∧
      ∀ predicate limit,
        ((∃ sql, s.update record predicate limit = .ok sql) ↔
          (∀ e ∈ d.entries record, e.1.Takes e.2) ∧ d.writtenFields ≠ [] ∧
            ∃ filter, s.conditionWithin limit predicate = .ok filter) ∧
        ∀ cause, s.update record predicate limit = .error cause ↔
          s.UpdateFails s.Refuses (d.entries record) predicate limit cause) ∧
    ∀ columns predicate limit,
      ((∃ sql, s.updateColumns columns predicate limit = .ok sql) ↔
        (∀ e ∈ columns, ∃ c, FirstWith (·.name = e.1) s.columns c ∧ c.Takes e.2) ∧ columns ≠ [] ∧
          ∃ filter, s.conditionWithin limit predicate = .ok filter) ∧
      ∀ cause, s.updateColumns columns predicate limit = .error cause ↔
        s.UpdateFails s.Offends columns predicate limit cause := by
  refine ⟨Description.columns_of_derive hderive, ?_, s.updateColumns_outcome⟩
  intro record hlength
  rcases Description.insert_outcome hderive hlength with ⟨hinserted, hrefused⟩
  exact ⟨hinserted, hrefused, Description.update_outcome hderive hlength⟩

/-- The schema of events. -/
def Schema.event : Schema where
  table := "audit.events"
  fields :=
    [⟨"message", .plain .string, some ⟨"message", "message", .text, false, false, some 10⟩⟩,
      ⟨"id", .plain (.integer .i64), some ⟨"id", "id", .integer, false, true, none⟩⟩,
      ⟨"cached", .plain .string, none⟩,
      ⟨"payload", .plain .bytes, some ⟨"payload", "pay]load", .other, false, false, some 4⟩⟩]
  handleType := "EventFields"
  isPublic := true

/-- Two values of the inserted record are too long. An unknown name stands between a key, which may
be named, and a text that is too long. An update of nothing is refused for that and not for its
predicate, whose field has no column. -/
theorem write_refused_at_first_fault_event :
    Description.event.derive = .ok Schema.event ∧
      Schema.event.insert [.text "overlong text", .int 7, .text "", .bytes [1, 2, 3, 4, 5]] =
        .error (.maxLength "audit.events" "message" 10 13) ∧
      (∃ sql, Schema.event.update Record.event none none = .ok sql) ∧
      Schema.event.updateColumns
          [("id", .int 1), ("cached", .null), ("message", .text "overlong text")] none none =
        .error (.unknownColumn "audit.events" "cached") ∧
      Schema.event.updateColumns [] (some (.field ⟨"cached", .text⟩)) none =
        .error (.nothingToUpdate "audit.events") := by
  have hderive : Description.event.derive = .ok Schema.event := rfl
  rcases write_refused_at_first_fault hderive with ⟨-, hrecord, hnamed⟩
  refine ⟨hderive, ?_, ?_, ?_, ?_⟩
  · have hrefuses : Schema.event.Refuses
        (⟨"message", "message", .text, false, false, some 10⟩, .text "overlong text")
        (.maxLength "audit.events" "message" 10 13) := .text rfl (by decide)
    exact ((hrecord _ rfl).2.1 _).mpr ⟨_, ⟨[], _, rfl, ⟨_, hrefuses⟩, by simp⟩, hrefuses⟩
  · have hfits : Description.event.Fits Record.event := by decide
    exact ((hrecord Record.event rfl).2.2 none none).1.mpr
      ⟨Description.fits_iff_takes.mp hfits, List.cons_ne_nil _ _, none, rfl⟩
  · have hunknown : Schema.event.Offends ("cached", .null)
        (.unknownColumn "audit.events" "cached") := .unknown (by decide)
    have hid : ∀ cause, ¬ Schema.event.Offends ("id", .int 1) cause :=
      Schema.not_offends_iff.mpr ⟨⟨"id", "id", .integer, false, true, none⟩,
        firstWith_iff_find?.mpr rfl, fun max hmax => nomatch hmax⟩
    exact ((hnamed _ none none).2 _).mpr
      (.entry ⟨_, ⟨[("id", .int 1)], _, rfl, ⟨_, hunknown⟩, by simpa using hid⟩, hunknown⟩)
  · exact ((hnamed [] (some (.field ⟨"cached", .text⟩)) none).2 _).mpr (.nothing rfl)

end EntitySql
