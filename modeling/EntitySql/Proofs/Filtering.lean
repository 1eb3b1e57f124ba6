import EntitySql.Proofs.Placement
import EntitySql.Proofs.Raised

/-! # One predicate is one filter

A selection, a deletion and an update carry the same filter for the same predicate: the condition
that the predicate compiles to on its own. It stands behind the command's head as it is where the
head binds nothing, and raised by the number of the head's bindings where it does. A predicate that
has no condition fails every command with the same error, and no condition is empty, so a filter
that is given is never lost.

Main statement: `one_filter_in_every_command`.
-/

namespace EntitySql

/-- A command with a filter behind it: nothing, or WHERE and a condition, whose bindings stand
behind those of the command. -/
def BoundSql.filteredBy (bare : BoundSql) : Option BoundSql → BoundSql
  | none => bare
  | some condition =>
    ⟨bare.text ++ " WHERE " ++ condition.text,
      ⟨bare.bindings.entries ++ condition.bindings.entries⟩⟩

namespace Schema

/-- The condition of a predicate on its own, compiled under a limit. -/
def conditionWithin (s : Schema) (limit : Option Nat) (predicate : Option Predicate) :
    Except PredicateError (Option BoundSql) :=
  match predicate with
  | none => .ok none
  | some p => (p.compile s.resolver limit >>= Expression.toSql).map some

/-- A selection without a filter. -/
def bareSelect (s : Schema) (count : Nat) : BoundSql :=
  ⟨"SELECT TOP " ++ Numeral.ofNat count ++ " " ++ columnList s.columns ++ " FROM " ++
    Bracketed.quoteObject s.table, .empty⟩

/-- A deletion without a filter. -/
def bareDelete (s : Schema) : BoundSql := ⟨"DELETE FROM " ++ Bracketed.quoteObject s.table, .empty⟩

/-- An update without a filter, from the names of columns and their values. -/
def bareUpdate (s : Schema) (assignments : List (String × Value)) : BoundSql :=
  ⟨"UPDATE " ++ Bracketed.quoteObject s.table ++ " SET " ++
      commaSeparated (assignments.mapIdx fun i a => Bracketed.quote a.1 ++ " = " ++ placeholder i),
    ⟨numbered 0 (assignments.map (·.2))⟩⟩

end Schema

/-! ## Heads -/

/-- What is written for items beside the names of their placeholders depends on their numbers. -/
theorem map_zip_numbered {α β γ : Type} (f : β → String → γ) (key : α → β) (value : α → Value)
    (n : Nat) (items : List α) :
    (items.zip ((numbered n (items.map value)).map (·.1))).map (fun a => f (key a.1) a.2) =
      (items.map key).mapIdx fun i k => f k (placeholder (n + i)) := by
  induction items generalizing n with
  | nil => rfl
  | cons item items ih =>
      have hnumber : ∀ i, n + 1 + i = n + (i + 1) := fun i => by omega
      simp only [List.map_cons, numbered, List.zip_cons_cons, ih, List.mapIdx_cons, Nat.add_zero,
        hnumber]

namespace Schema

theorem ofTemplate_selectHead (s : Schema) (count : Nat) :
    BoundSql.ofTemplate (s.selectHead count) = s.bareSelect count := by
  have htext : (s.selectHead count).text 0 = (s.bareSelect count).text := by
    apply String.ext
    simp [bareSelect, selectHead, phrase, Template.text_append, text_columnTemplate,
      text_objectTemplate, Template.text_ofTokens, Token.chars]
  rw [BoundSql.ofTemplate, htext, values_selectHead]
  rfl

theorem ofTemplate_deleteHead (s : Schema) :
    BoundSql.ofTemplate s.deleteHead = s.bareDelete := by
  have htext : s.deleteHead.text 0 = s.bareDelete.text := by
    apply String.ext
    simp [bareDelete, deleteHead, phrase, Template.text_append, text_objectTemplate,
      Template.text_ofTokens, Token.chars]
  rw [BoundSql.ofTemplate, htext, values_deleteHead]
  rfl

/-- The written columns and values as names and values. -/
def assignments (values : List (Column × Value)) : List (String × Value) :=
  values.map fun e => (e.1.name, e.2)

theorem ofTemplate_updateHead (s : Schema) (values : List (Column × Value)) :
    BoundSql.ofTemplate (s.updateHead values) = s.bareUpdate (assignments values) := by
  have hassign :
      (assignmentTemplate (fun e : Column × Value => .name e.1.name) (·.2) values).text 0 =
      commaSeparated ((assignments values).mapIdx
        fun i a => Bracketed.quote a.1 ++ " = " ++ placeholder i) := by
    have hzip := map_zip_numbered (fun (a : String × Value) name =>
      Bracketed.quote a.1 ++ " = " ++ name) (fun e => (e.1.name, e.2)) (·.2) 0 values
    simp only [Nat.zero_add] at hzip
    rw [text_assignmentTemplate, assignments, ← hzip]
    rfl
  have htext : (s.updateHead values).text 0 = (s.bareUpdate (assignments values)).text := by
    rw [updateHead, Template.text_append, Template.text_append, Template.text_append,
      text_objectTemplate]
    simp only [Template.values_ofTokens, values_objectTemplate, List.length_nil, Nat.add_zero,
      Template.text_ofTokens, hassign]
    simp [bareUpdate, String.append_assoc, Token.chars]
  have hvalues : (assignments values).map (·.2) = values.map (·.2) := by
    rw [assignments, List.map_map]
    rfl
  rw [BoundSql.ofTemplate, htext, values_updateHead, bareUpdate, hvalues]

/-- The assignments of named values are the names and the values as they were given. -/
theorem assignments_of_assignNamed {s : Schema} {columns : List (String × Value)}
    {named : List (Column × Value)}
    (h : (columns.mapM fun e => s.assignNamed e.1 e.2) = .ok named) :
    assignments named = columns := by
  have hkeep : named.map (fun e => (e.1.name, e.2)) = columns.map id := by
    apply map_eq_of_mapM h
    intro e entry hentry
    rcases assignNamed_eq_ok hentry with ⟨column, hcolumn, rfl⟩
    -- the column was found by its name
    have hfound := List.find?_some hcolumn
    have hname : column.name = e.1 := beq_iff_eq.mp hfound
    rw [hname]
    rfl
  rw [assignments, hkeep, List.map_id]

end Schema

/-! ## Filters -/

/-- The lexer reads the tokens back, so there is a text to read. -/
theorem Template.Scannable.text_ne_empty {t : Template} (h : t.Scannable) (hne : t ≠ []) (n : Nat) :
    t.text n ≠ "" := by
  intro hempty
  have hlex : Token.lex (t.text n).toList = some (t.tokens n) := h.readable.lex_text n
  rw [hempty, String.toList_empty, Token.lex, Option.some.injEq] at hlex
  cases t with
  | nil => exact hne rfl
  | cons piece t => cases piece <;> cases hlex

/-- Behind a head the placeholders of a condition are raised by the number of the head's bindings.
-/
theorem BoundSql.ofTemplate_append_where (head : Template) {t : Template} (h : t.Scannable) :
    ofTemplate (head ++ (.ofTokens [.space, .word "WHERE", .space] ++ t)) =
      (ofTemplate head).filteredBy (some ((ofTemplate t).raise head.values.length)) := by
  have hwhere : ∀ n, (Template.ofTokens [.space, .word "WHERE", .space]).text n = " WHERE " := by
    intro n
    rw [Template.text_ofTokens]
    rfl
  rw [raise_ofTemplate h, filteredBy, writtenFrom, ofTemplate, ofTemplate, Template.text_append,
    Template.text_append, hwhere, Template.values_append, Template.values_append,
    Template.values_ofTokens, numbered_append, List.nil_append, List.length_nil, Nat.zero_add,
    Nat.add_zero, String.append_assoc]

/-- A whole condition has a word between its sides. -/
theorem Expression.rootTemplate_ne_nil {e : Expression} (h : e.isNode = true) :
    e.rootTemplate ≠ [] := by
  cases e with
  | node left op right logical =>
      rw [rootTemplate, Template.sides]
      split <;> simp [Template.parenthesize, Template.ofTokens]
  | absent => cases h
  | column name => cases h
  | literal value => cases h

namespace Schema

variable {s : Schema} {predicate : Option Predicate} {limit : Option Nat}

theorem condition_eq_conditionWithin (s : Schema) (predicate : Option Predicate) :
    s.condition predicate = s.conditionWithin none predicate := by
  cases predicate with
  | none => rfl
  | some p => exact s.condition_eq p

/-- The condition of a predicate is the writing of a template that is scannable and not empty. -/
theorem conditionWithin_eq_ok {filter : Option BoundSql}
    (h : s.conditionWithin limit predicate = .ok filter) :
    (predicate = none ∧ filter = none) ∨
      ∃ p e, predicate = some p ∧ p.compiled s.resolver limit = .ok e ∧
        e.rootTemplate.Scannable ∧ e.rootTemplate ≠ [] ∧
        filter = some (.ofTemplate e.rootTemplate) := by
  cases predicate with
  | none => exact Or.inl ⟨rfl, (Except.ok.inj h).symm⟩
  | some p =>
      rw [conditionWithin, Predicate.compile_toSql_eq] at h
      rcases map_eq_ok.mp h with ⟨sql, hsql, rfl⟩
      rcases map_eq_ok.mp hsql with ⟨e, hcompiled, rfl⟩
      rcases Predicate.compiled_eq_ok hcompiled with ⟨hcompile, hop⟩
      rcases Expression.readable_rootTemplate hop with ⟨hreadable, hplain⟩
      have hnode : e.isNode = true := (Predicate.compiles_of_compile hcompile).2
      exact Or.inr ⟨p, e, rfl, hcompiled, ⟨hreadable, hplain⟩,
        Expression.rootTemplate_ne_nil hnode, rfl⟩

/-- A head and a filter, written as one template, are the command of the head with the condition
raised behind the head's bindings. -/
theorem map_filterTemplate (s : Schema) (head : Template) (predicate : Option Predicate)
    (limit : Option Nat) :
    (s.filterTemplate predicate limit).map (fun t => BoundSql.ofTemplate (head ++ t)) =
      (s.conditionWithin limit predicate).map fun filter =>
        (BoundSql.ofTemplate head).filteredBy (filter.map (.raise head.values.length)) := by
  cases predicate with
  | none =>
      have hhead : BoundSql.ofTemplate (head ++ []) = BoundSql.ofTemplate head := by
        rw [List.append_nil]
      exact congrArg Except.ok hhead
  | some p =>
      rw [filterTemplate, conditionWithin, Predicate.compile_toSql_eq]
      cases hcompiled : p.compiled s.resolver limit with
      | error cause => rfl
      | ok e =>
          rcases Expression.readable_rootTemplate (Predicate.compiled_eq_ok hcompiled).2 with
            ⟨hreadable, hplain⟩
          exact congrArg Except.ok (BoundSql.ofTemplate_append_where head ⟨hreadable, hplain⟩)

/-- The condition of a predicate is not empty, raised or not, and raising it by zero keeps it. -/
theorem text_conditionWithin {condition : BoundSql}
    (h : s.conditionWithin limit predicate = .ok (some condition)) :
    condition.raise 0 = condition ∧ ∀ k, (condition.raise k).text ≠ "" := by
  rcases conditionWithin_eq_ok h with ⟨-, hnone⟩ | ⟨p, e, -, -, hscannable, hne, hsome⟩
  · cases hnone
  · rw [Option.some.inj hsome]
    constructor
    · rw [BoundSql.raise_ofTemplate hscannable]
      rfl
    · intro k
      rw [BoundSql.raise_ofTemplate hscannable]
      exact hscannable.text_ne_empty hne k

/-! ## Commands -/

/-- A head that binds nothing carries the condition as it is. -/
theorem map_filteredBy_raise_zero (bare : BoundSql) :
    (s.conditionWithin limit predicate).map
        (fun filter => bare.filteredBy (filter.map (.raise 0))) =
      (s.conditionWithin limit predicate).map bare.filteredBy := by
  cases h : s.conditionWithin limit predicate with
  | error cause => rfl
  | ok filter =>
      cases filter with
      | none => rfl
      | some condition =>
          have hzero : condition.raise 0 = condition := (text_conditionWithin h).1
          change Except.ok (bare.filteredBy (some (condition.raise 0))) = _
          rw [hzero]
          rfl

theorem selectTop_filteredBy (s : Schema) (count : Nat) (predicate : Option Predicate)
    (limit : Option Nat) :
    s.selectTop count predicate limit =
      ((s.conditionWithin limit predicate).map (s.bareSelect count).filteredBy).mapError
        .predicate := by
  rw [selectTop_eq, map_filterTemplate, ofTemplate_selectHead, values_selectHead, List.length_nil,
    map_filteredBy_raise_zero]

theorem delete_filteredBy (s : Schema) (predicate : Option Predicate) (limit : Option Nat) :
    s.delete predicate limit =
      ((s.conditionWithin limit predicate).map s.bareDelete.filteredBy).mapError .predicate := by
  rw [delete_eq, map_filterTemplate, ofTemplate_deleteHead, values_deleteHead, List.length_nil,
    map_filteredBy_raise_zero]

/-- An update raises the condition behind the values that it sets. -/
theorem updateValues_filteredBy (s : Schema) {values : List (Column × Value)} (hne : values ≠ [])
    (predicate : Option Predicate) (limit : Option Nat) :
    s.updateValues values predicate limit =
      ((s.conditionWithin limit predicate).map fun filter =>
        (s.bareUpdate (assignments values)).filteredBy
          (filter.map (.raise values.length))).mapError .predicate := by
  rw [updateValues_eq s hne, map_filterTemplate, ofTemplate_updateHead, values_updateHead,
    List.length_map]

/-- With the values of a record in front, the condition is raised behind them. -/
theorem update_filteredBy (s : Schema) {record : Record} {values : List (Column × Value)}
    (hrecord : s.written record = .ok values) (hvalues : values ≠ [])
    (predicate : Option Predicate) (limit : Option Nat) :
    s.update record predicate limit =
      ((s.conditionWithin limit predicate).map fun filter =>
        (s.bareUpdate (assignments values)).filteredBy
          (filter.map (.raise values.length))).mapError .predicate := by
  have hupdate : s.update record predicate limit = s.updateValues values predicate limit := by
    rw [update, hrecord]
    rfl
  rw [hupdate, s.updateValues_filteredBy hvalues]

/-- With named columns in front, the condition is raised behind their values. -/
theorem updateColumns_filteredBy (s : Schema) {columns : List (String × Value)}
    {named : List (Column × Value)}
    (hcolumns : (columns.mapM fun e => s.assignNamed e.1 e.2) = .ok named) (hnamed : columns ≠ [])
    (predicate : Option Predicate) (limit : Option Nat) :
    s.updateColumns columns predicate limit =
      ((s.conditionWithin limit predicate).map fun filter =>
        (s.bareUpdate columns).filteredBy
          (filter.map (.raise columns.length))).mapError .predicate := by
  have hupdate :
      s.updateColumns columns predicate limit = s.updateValues named predicate limit := by
    rw [updateColumns, hcolumns]
    rfl
  -- the check of the names keeps the names, the values and their number
  have hassignments : assignments named = columns := assignments_of_assignNamed hcolumns
  have hlength : named.length = columns.length := by
    rw [← hassignments, assignments, List.length_map]
  have hne : named ≠ [] := by
    rintro rfl
    exact hnamed hassignments.symm
  rw [hupdate, s.updateValues_filteredBy hne, hassignments, hlength]

end Schema

/-- A predicate and a limit fail every command with one error, or give one condition that every
command carries: none without a predicate, and with one a condition that is not empty. An update
needs values that pass their own checks; they are bound first, and the condition is raised by their
number. -/
theorem one_filter_in_every_command (s : Schema) (predicate : Option Predicate) (limit : Option Nat)
    (count : Nat) :
    s.condition predicate = s.conditionWithin none predicate ∧
    ((∃ cause, s.conditionWithin limit predicate = .error cause ∧
        s.selectTop count predicate limit = .error (.predicate cause) ∧
        s.delete predicate limit = .error (.predicate cause) ∧
        (∀ record values, s.written record = .ok values → values ≠ [] →
          s.update record predicate limit = .error (.predicate cause)) ∧
        ∀ columns named, (columns.mapM fun e => s.assignNamed e.1 e.2) = .ok named → columns ≠ [] →
          s.updateColumns columns predicate limit = .error (.predicate cause)) ∨
      ∃ filter, s.conditionWithin limit predicate = .ok filter ∧
        (filter = none ↔ predicate = none) ∧
        (∀ condition, filter = some condition →
          condition.text ≠ "" ∧ ∀ k, (condition.raise k).text ≠ "") ∧
        s.selectTop count predicate limit = .ok ((s.bareSelect count).filteredBy filter) ∧
        s.delete predicate limit = .ok (s.bareDelete.filteredBy filter) ∧
        (∀ record values, s.written record = .ok values → values ≠ [] →
          s.update record predicate limit =
            .ok ((s.bareUpdate (Schema.assignments values)).filteredBy
              (filter.map (.raise values.length)))) ∧
        ∀ columns named, (columns.mapM fun e => s.assignNamed e.1 e.2) = .ok named → columns ≠ [] →
          s.updateColumns columns predicate limit =
            .ok ((s.bareUpdate columns).filteredBy (filter.map (.raise columns.length)))) := by
  refine ⟨s.condition_eq_conditionWithin predicate, ?_⟩
  cases hfilter : s.conditionWithin limit predicate with
  | error cause =>
      left
      refine ⟨cause, rfl, ?_, ?_, fun record values hrecord hvalues => ?_,
        fun columns named hcolumns hnamed => ?_⟩
      · rw [s.selectTop_filteredBy, hfilter]
        rfl
      · rw [s.delete_filteredBy, hfilter]
        rfl
      · rw [s.update_filteredBy hrecord hvalues, hfilter]
        rfl
      · rw [s.updateColumns_filteredBy hcolumns hnamed, hfilter]
        rfl
  | ok filter =>
      right
      refine ⟨filter, rfl, ?_, ?_, ?_, ?_, fun record values hrecord hvalues => ?_,
        fun columns named hcolumns hnamed => ?_⟩
      · rcases Schema.conditionWithin_eq_ok hfilter with
          ⟨hpredicate, hnone⟩ | ⟨p, e, hpredicate, -, -, -, hsome⟩
        · simp [hpredicate, hnone]
        · simp [hpredicate, hsome]
      · rintro condition rfl
        rcases Schema.text_conditionWithin hfilter with ⟨hzero, hne⟩
        have htext := hne 0
        rw [hzero] at htext
        exact ⟨htext, hne⟩
      · rw [s.selectTop_filteredBy, hfilter]
        rfl
      · rw [s.delete_filteredBy, hfilter]
        rfl
      · rw [s.update_filteredBy hrecord hvalues, hfilter]
        rfl
      · rw [s.updateColumns_filteredBy hcolumns hnamed, hfilter]
        rfl

/-- An entity of which the key is the only column, so there is nothing that an update could set. -/
def Schema.counter : Schema where
  table := "counter"
  fields := [⟨"id", .plain (.integer .i64), some ⟨"id", "id", .integer, false, true, none⟩⟩]
  handleType := "CounterFields"
  isPublic := true

/-- The first counters. -/
def Predicate.firstCounters : Predicate :=
  Predicate.lt (.field ⟨"id", .integer⟩) (.constant (.int 3))

/-- A filter over the notes: the text begins with nine, and the note is read. -/
def Predicate.readNines : Predicate :=
  (Predicate.startsWith (.field ⟨"text", .text⟩) (.constant (.uint 9))).and
    (.field ⟨"read", .boolean⟩)

/-- An entity that has a key only is deleted and selected by the filter. Where two values are set in
front of a condition, its placeholder is the third. -/
theorem one_filter_in_every_command_notes :
    (∃ filter, Schema.counter.conditionWithin none (some .firstCounters) = .ok filter ∧
      filter ≠ none ∧
      Schema.counter.selectTop 1 (some .firstCounters) none =
        .ok ((Schema.counter.bareSelect 1).filteredBy filter) ∧
      Schema.counter.delete (some .firstCounters) none =
        .ok (Schema.counter.bareDelete.filteredBy filter)) ∧
    (∃ filter, Schema.notes.conditionWithin (some 2) (some .readNines) = .ok filter ∧
      Schema.notes.delete (some .readNines) (some 2) =
        .ok (Schema.notes.bareDelete.filteredBy filter) ∧
      Schema.notes.update [.text "a", .bool true] (some .readNines) (some 2) =
        .ok ((Schema.notes.bareUpdate [("Text", .text "a"), ("Is]Read", .bool true)]).filteredBy
          (filter.map (.raise 2))) ∧
      Schema.notes.updateColumns [("Text", .int 7)] (some .readNines) (some 2) =
        .ok ((Schema.notes.bareUpdate [("Text", .int 7)]).filteredBy (filter.map (.raise 1)))) ∧
    ((Schema.notes.delete (some .readNines) (some 2)).toOption.map (·.text) =
      some "DELETE FROM [dbo].[Note] WHERE (([Text] LIKE @param_0 + '%') AND ([Is]]Read] = 1))") ∧
    (Schema.notes.update [.text "a", .bool true] (some .readNines) (some 2)).toOption.map (·.text) =
      some ("UPDATE [dbo].[Note] SET [Text] = @param_0, [Is]]Read] = @param_1" ++
        " WHERE (([Text] LIKE @param_2 + '%') AND ([Is]]Read] = 1))") := by
  refine ⟨?_, ?_, by decide +kernel, by decide +kernel⟩
  · obtain ⟨condition, hcondition⟩ : ∃ condition,
        Schema.counter.conditionWithin none (some .firstCounters) = .ok condition :=
      exists_eq_ok (by decide +kernel)
    rcases one_filter_in_every_command Schema.counter (some .firstCounters) none 1 with
      ⟨-, ⟨cause, herror, -⟩ | ⟨filter, hfilter, hnone, -, hselect, hdelete, -⟩⟩
    · rw [hcondition] at herror
      cases herror
    · have hsome : filter ≠ none := by
        intro h
        cases hnone.mp h
      exact ⟨filter, hfilter, hsome, hselect, hdelete⟩
  · obtain ⟨condition, hcondition⟩ : ∃ condition,
        Schema.notes.conditionWithin (some 2) (some .readNines) = .ok condition :=
      exists_eq_ok (by decide +kernel)
    rcases one_filter_in_every_command Schema.notes (some .readNines) (some 2) 1 with
      ⟨-, ⟨cause, herror, -⟩ | ⟨filter, hfilter, -, -, -, hdelete, hupdate, hupdateColumns⟩⟩
    · rw [hcondition] at herror
      cases herror
    · refine ⟨filter, hfilter, hdelete, ?_, ?_⟩
      · exact hupdate [.text "a", .bool true]
          [(⟨"text", "Text", .text, false, false, none⟩, .text "a"),
            (⟨"read", "Is]Read", .boolean, false, false, none⟩, .bool true)] rfl (by simp)
      · exact hupdateColumns [("Text", .int 7)]
          [(⟨"text", "Text", .text, false, false, none⟩, .int 7)] rfl (by simp)

end EntitySql
