import EntitySql.Proofs.Constants
import EntitySql.Proofs.Template.ReadableCommand
import Mathlib.Data.List.Nodup

/-! # Placeholders in text order

The placeholders of a text, read from left to right, are numbered from zero without a gap, and the
bindings carry the same names in the same order. The values under them are the written values and
then the constants of the predicate that are not inlined.

In a call of a stored procedure the names of arguments begin with an at sign too; placeholders are
what stands behind the equals signs.
-/

namespace EntitySql

/-- The words with an at sign that stand behind an equals sign, up to the next comma. -/
def Token.assignedNames : (right : Bool) → List Token → List String
  | _, [] => []
  | right, t :: ts =>
    if t = .comma then assignedNames false ts
    else if t = .word "=" then assignedNames true ts
    else (if right then t.atName?.toList else []) ++ assignedNames right ts

/-- Scanning the text meets exactly the placeholders that are numbered from zero on, each once and
in order; the bindings carry the same names in the same order, over the given values. -/
structure BoundSql.InOrder (sql : BoundSql) (scan : List Token → List String)
    (values : List Value) : Prop where
  scanned : (Token.lex sql.text.toList).map scan =
    some ((List.range values.length).map placeholder)
  named : sql.bindings.names = (List.range values.length).map placeholder
  distinct : sql.bindings.names.Nodup
  valued : sql.bindings.values = values

/-- The values that a command without written values binds. -/
def Predicate.filterValues (predicate : Option Predicate) : List Value :=
  (predicate.map boundValues).getD []

theorem map_fst_numbered (n : Nat) (values : List Value) :
    (numbered n values).map (·.1) = (List.range' n values.length).map placeholder := by
  induction values generalizing n with
  | nil => rfl
  | cons v values ih => simp [numbered, ih, List.range'_succ]

@[simp] theorem map_snd_numbered (n : Nat) (values : List Value) :
    (numbered n values).map (·.2) = values := by
  induction values generalizing n with
  | nil => rfl
  | cons v values ih => simp [numbered, ih]

namespace BoundSql

theorem names_ofTemplate (t : Template) :
    (ofTemplate t).bindings.names = (List.range t.values.length).map placeholder := by
  have hnames : (ofTemplate t).bindings.names = (numbered 0 t.values).map (·.1) := rfl
  rw [hnames, map_fst_numbered, List.range_eq_range']

/-- A readable template is in order when scanning its tokens meets its slots. -/
theorem inOrder_of_scan {t : Template} {scan : List Token → List String} (hreadable : t.Readable)
    (hscan : scan (t.tokens 0) = (numbered 0 t.values).map (·.1)) :
    (ofTemplate t).InOrder scan t.values where
  scanned := by
    have hlex : Token.lex (ofTemplate t).text.toList = some (t.tokens 0) := hreadable.lex_text 0
    rw [hlex, Option.map_some, hscan, map_fst_numbered, List.range_eq_range']
  named := names_ofTemplate t
  distinct := by
    rw [names_ofTemplate]
    exact List.Nodup.map (fun m n => placeholder_injective) List.nodup_range
  valued := map_snd_numbered 0 t.values

theorem inOrder_ofTemplate {t : Template} (h : t.Scannable) :
    (ofTemplate t).InOrder Token.atNames t.values :=
  inOrder_of_scan h.readable (h.plain.atNames_tokens 0)

end BoundSql

/-! ## Conditions -/

theorem Predicate.inOrder_toSql {p : Predicate} {columns : Resolver} {limit : Option Nat}
    {sql : BoundSql} (h : (p.compile columns limit >>= Expression.toSql) = .ok sql) :
    sql.InOrder Token.atNames p.boundValues := by
  rw [compile_toSql_eq] at h
  rcases map_eq_ok.mp h with ⟨e, hcompiled, rfl⟩
  rcases compiled_eq_ok hcompiled with ⟨hcompile, hop⟩
  rcases Expression.readable_rootTemplate hop with ⟨hreadable, hplain⟩
  have horder := BoundSql.inOrder_ofTemplate ⟨hreadable, hplain⟩
  rwa [Expression.values_rootTemplate hcompile] at horder

/-! ## Commands with a filter -/

namespace Schema

variable {s : Schema} {predicate : Option Predicate} {limit : Option Nat} {sql : BoundSql}

theorem values_filterTemplate {t : Template} (h : s.filterTemplate predicate limit = .ok t) :
    t.values = Predicate.filterValues predicate := by
  cases predicate with
  | none =>
      obtain rfl : [] = t := Except.ok.inj h
      rfl
  | some p =>
      rcases map_eq_ok.mp h with ⟨e, hcompiled, rfl⟩
      rw [Template.values_append, Template.values_ofTokens,
        Expression.values_rootTemplate (Predicate.compiled_eq_ok hcompiled).1]
      rfl

theorem assign_eq_ok {column : Column} {value : Value} {entry : Column × Value}
    (h : s.assign column value = .ok entry) : entry = (column, value) := by
  rcases bind_eq_ok.mp h with ⟨-, -, h⟩
  exact (Except.ok.inj h).symm

theorem assignNamed_eq_ok {name : String} {value : Value} {entry : Column × Value}
    (h : s.assignNamed name value = .ok entry) :
    ∃ column, s.columnNamed? name = some column ∧ entry = (column, value) := by
  rw [assignNamed] at h
  cases hcolumn : s.columnNamed? name with
  | none => simp [hcolumn] at h
  | some column => exact ⟨column, rfl, assign_eq_ok (by simpa [hcolumn] using h)⟩

/-- Naming columns keeps the values. -/
theorem values_of_assignNamed (s : Schema) {columns : List (String × Value)}
    {values : List (Column × Value)}
    (h : (columns.mapM fun e => s.assignNamed e.1 e.2) = .ok values) :
    values.map (·.2) = columns.map (·.2) := by
  apply map_eq_of_mapM h
  intro e entry hentry
  rcases assignNamed_eq_ok hentry with ⟨column, -, rfl⟩
  rfl

/-- A command is in order when its head is scannable: the filter goes on where the head stops. -/
theorem inOrder_command {head : Template} (hhead : head.Scannable)
    (h : ((s.filterTemplate predicate limit).map fun t =>
      BoundSql.ofTemplate (head ++ t)).mapError Error.predicate = .ok sql) :
    sql.InOrder Token.atNames (head.values ++ Predicate.filterValues predicate) := by
  rcases map_eq_ok.mp (mapError_eq_ok.mp h) with ⟨t, ht, rfl⟩
  rcases scannable_filterTemplate ht with ⟨hscannable, hbegins⟩
  have horder := BoundSql.inOrder_ofTemplate (hhead.append hscannable (Or.inr hbegins))
  rwa [Template.values_append, values_filterTemplate ht] at horder

theorem inOrder_updateValues {values : List (Column × Value)}
    (h : s.updateValues values predicate limit = .ok sql) :
    sql.InOrder Token.atNames (values.map (·.2) ++ Predicate.filterValues predicate) := by
  have hne : values ≠ [] := by
    rintro rfl
    cases h
  rw [updateValues_eq s hne] at h
  have horder := inOrder_command (scannable_updateHead s values) h
  rwa [values_updateHead] at horder

end Schema

/-! ## Calls -/

namespace Token

/-- Nothing is assigned in front of the first equals sign. -/
theorem assignedNames_append {ts : List Token} (h : .word "=" ∉ ts) (us : List Token) :
    assignedNames false (ts ++ us) = assignedNames false us := by
  induction ts with
  | nil => rfl
  | cons t ts ih =>
      have hts : .word "=" ∉ ts := fun hmem => h (List.mem_cons_of_mem t hmem)
      have ht : t ≠ .word "=" := fun heq => h (heq ▸ List.mem_cons_self)
      rw [List.cons_append, assignedNames, ih hts, if_neg ht]
      split <;> rfl

theorem atName?_space : space.atName? = none := rfl

/-- An assignment assigns its value, whatever stands behind the comma that ends it. -/
theorem assignedNames_assign {target : Token} (htarget : target ≠ .word "=") (n : Nat)
    (value : Value) (us : List Token) :
    assignedNames false ((assignTemplate target value).tokens n ++ us) =
      placeholder n :: assignedNames true us := by
  -- a placeholder begins with an at sign
  have hplaceholder : placeholder n ≠ "=" := by
    intro heq
    have hlist := congrArg String.toList heq
    rw [toList_placeholder] at hlist
    cases hlist
  have htokens : (assignTemplate target value).tokens n ++ us =
      [target, .space] ++ (.word "=" :: .space :: .word (placeholder n) :: us) := rfl
  have hfront : Token.word "=" ∉ [target, .space] := by simpa using htarget.symm
  rw [htokens, assignedNames_append hfront]
  have hname := Template.atName?_placeholder n
  simp [assignedNames, hplaceholder, hname, atName?_space]

/-- The assignments of a call assign their values. -/
theorem assignedNames_assignmentTemplate {α : Type} {target : α → Token} {value : α → Value}
    {items : List α} (h : ∀ item ∈ items, target item ≠ .word "=") (n : Nat) :
    assignedNames false ((assignmentTemplate target value items).tokens n) =
      (numbered n (items.map value)).map (·.1) := by
  induction items generalizing n with
  | nil => rfl
  | cons item items ih =>
      have hitem : target item ≠ .word "=" := h item List.mem_cons_self
      have hrest := ih (fun other hother => h other (List.mem_cons_of_mem item hother)) (n + 1)
      cases items with
      | nil =>
          have hone := assignedNames_assign hitem n (value item) []
          rwa [List.append_nil] at hone
      | cons next items =>
          -- the comma ends the right side, so the next target is not met
          have htokens : (assignmentTemplate target value (item :: next :: items)).tokens n =
              (assignTemplate (target item) (value item)).tokens n ++
                (.comma :: .space ::
                  (assignmentTemplate target value (next :: items)).tokens (n + 1)) := by
            simp [assignmentTemplate, Template.join, assignTemplate]
          rw [htokens, assignedNames_assign hitem]
          have hcomma : ∀ us : List Token, assignedNames true (.comma :: .space :: us) =
              assignedNames false us := fun us => by simp [assignedNames]
          rw [hcomma, hrest]
          rfl

/-- An object name holds no equals sign outside of brackets. -/
theorem equals_not_mem_objectTemplate (name : String) (n : Nat) :
    Token.word "=" ∉ (objectTemplate name).tokens n := by
  rw [objectTemplate]
  generalize Bracketed.parts name.toList = parts
  induction parts generalizing n with
  | nil => simp [Template.join]
  | cons part parts ih =>
      cases parts with
      | nil => simp [Template.join]
      | cons next parts =>
          have hrest := ih n
          simpa [Template.join] using hrest

/-- A call assigns the values of its arguments. -/
theorem assignedNames_callTemplate (name : String) (arguments : List (String × Value)) :
    assignedNames false ((callTemplate name arguments).tokens 0) =
      (numbered 0 (arguments.map (·.2))).map (·.1) := by
  have hhead : Token.word "=" ∉ [.word "EXEC", .space] ++ (objectTemplate name).tokens 0 := by
    simpa using equals_not_mem_objectTemplate name 0
  cases arguments with
  | nil =>
      have htokens : (callTemplate name []).tokens 0 =
          ([.word "EXEC", .space] ++ (objectTemplate name).tokens 0) ++ [] := by
        simp [callTemplate]
      rw [htokens, assignedNames_append hhead]
      rfl
  | cons a arguments =>
      have htokens : (callTemplate name (a :: arguments)).tokens 0 =
          ([.word "EXEC", .space] ++ (objectTemplate name).tokens 0) ++ ([.space] ++
            (assignmentTemplate (fun a => .word ("@" ++ a.1)) (·.2)
              (a :: arguments)).tokens 0) := by
        simp [callTemplate]
      have hspace : Token.word "=" ∉ [Token.space] := by simp
      rw [htokens, assignedNames_append hhead, assignedNames_append hspace]
      apply assignedNames_assignmentTemplate
      intro item hitem heq
      have hlist := congrArg String.toList (Token.word.inj heq)
      simp at hlist

end Token

/-- A stripped argument name is a word behind an at sign. -/
theorem isWord_parameterName {name parameter : String} (h : parameterName name = .ok parameter) :
    isWord ("@" ++ parameter).toList = true := by
  rw [parameterName] at h
  split at h
  · next hname =>
      rcases Except.ok.inj h with rfl
      simp only [isParameterName, Bool.and_eq_true, List.all_eq_true] at hname
      -- a stripped name holds letters, digits and underscores only
      have hchars : ∀ c ∈ '@' :: stripAt name, isWordChar c = true ∧ c ≠ '-' ∧ c ≠ '/' := by
        intro c hc
        rcases List.mem_cons.mp hc with rfl | hc
        · decide
        · have hclass := hname.2 c hc
          refine ⟨?_, ?_, ?_⟩
          · rcases Bool.or_eq_true _ _ ▸ hclass with halnum | hunderscore
            · simp [isWordChar, halnum]
            · obtain rfl : c = '_' := by simpa using hunderscore
              decide
          · rintro rfl
            exact absurd hclass (by decide)
          · rintro rfl
            exact absurd hclass (by decide)
      have hcomment : hasComment ('@' :: stripAt name ++ []) = hasComment [] :=
        hasComment_append fun c hc => (hchars c hc).2
      have hall : ('@' :: stripAt name).all isWordChar = true :=
        List.all_eq_true.mpr fun c hc => (hchars c hc).1
      rw [List.append_nil] at hcomment
      have htext : ("@" ++ String.ofList (stripAt name)).toList = '@' :: stripAt name := by simp
      rw [htext, isWord, hcomment, hall]
      rfl
  · cases h

theorem readable_callTemplate (name : String) {arguments : List (String × Value)}
    (h : ∀ a ∈ arguments, isWord ("@" ++ a.1).toList = true) :
    (callTemplate name arguments).Readable := by
  have htable : (objectTemplate name).Readable := (scannable_objectTemplate name).readable
  have hassignments : (assignmentTemplate (fun a : String × Value => .word ("@" ++ a.1)) (·.2)
      arguments).Readable := readable_assignmentTemplate h
  have harguments : (Template.ofTokens [.space] ++ assignmentTemplate
      (fun a : String × Value => .word ("@" ++ a.1)) (·.2) arguments).Readable :=
    hassignments.behind (by decide) (by simp) (by simp)
  refine Template.Readable.behind ?_ (by decide) (by simp [Token.Separate]) (by simp)
  split
  · exact htable.append Template.Readable.nil (Or.inr (by simp))
  · exact htable.append harguments (Or.inr (beginsMarked_space _))

theorem inOrder_storedProcedure {name : String} {arguments : List (String × Value)}
    {sql : BoundSql} (h : storedProcedure name arguments = .ok sql) :
    sql.InOrder (Token.assignedNames false) (arguments.map (·.2)) := by
  rw [storedProcedure_eq] at h
  rcases map_eq_ok.mp h with ⟨parameters, hnames, rfl⟩
  have hlength : parameters.length = (arguments.map (·.2)).length := by
    rw [List.length_map]
    exact (forall₂_of_mapM hnames).length_eq.symm
  have hvalues : (parameters.zip (arguments.map (·.2))).map (·.2) = arguments.map (·.2) :=
    List.map_snd_zip hlength.ge
  have hwords : ∀ a ∈ parameters.zip (arguments.map (·.2)),
      isWord ("@" ++ a.1).toList = true := by
    intro a ha
    rcases exists_of_mem_mapM hnames (List.of_mem_zip ha).1 with ⟨argument, -, hparameter⟩
    exact isWord_parameterName hparameter
  have hscan : Token.assignedNames false ((callTemplate name
      (parameters.zip (arguments.map (·.2)))).tokens 0) = (numbered 0 (callTemplate name
        (parameters.zip (arguments.map (·.2)))).values).map (·.1) := by
    rw [Token.assignedNames_callTemplate, values_callTemplate]
  have horder := BoundSql.inOrder_of_scan (readable_callTemplate name hwords) hscan
  rwa [values_callTemplate, hvalues] at horder

/-! ## Every condition and every command -/

theorem Schema.inOrder_condition {s : Schema} {p : Predicate} {sql : BoundSql}
    (h : s.condition (some p) = .ok (some sql)) : sql.InOrder Token.atNames p.boundValues := by
  rw [condition_eq] at h
  rcases map_eq_ok.mp h with ⟨sql', hsql, hsome⟩
  rw [← Option.some.inj hsome]
  exact Predicate.inOrder_toSql hsql

theorem Schema.inOrder_insert {s : Schema} {record : Record} {sql : BoundSql}
    (h : s.insert record = .ok sql) :
    ∃ values, s.written record = .ok values ∧ sql.InOrder Token.atNames (values.map (·.2)) := by
  rw [insert_eq] at h
  rcases map_eq_ok.mp h with ⟨values, hvalues, rfl⟩
  have horder := BoundSql.inOrder_ofTemplate (s.scannable_insertTemplate values)
  rw [values_insertTemplate] at horder
  exact ⟨values, hvalues, horder⟩

theorem Schema.inOrder_updateColumns {s : Schema} {columns : List (String × Value)}
    {predicate : Option Predicate} {limit : Option Nat} {sql : BoundSql}
    (h : s.updateColumns columns predicate limit = .ok sql) :
    sql.InOrder Token.atNames (columns.map (·.2) ++ Predicate.filterValues predicate) := by
  rcases bind_eq_ok.mp h with ⟨values, hvalues, h⟩
  have hsame : values.map (·.2) = columns.map (·.2) := s.values_of_assignNamed hvalues
  rw [← hsame]
  exact inOrder_updateValues h

/-- The placeholders in the text of every condition and of every command are numbered in text order,
and they are bound to the written values and then to the constants that are not inlined. -/
theorem placeholders_in_text_order (s : Schema) :
    (∀ (p : Predicate) (columns : Resolver) (limit : Option Nat) (sql : BoundSql),
      (p.compile columns limit >>= Expression.toSql) = .ok sql →
        sql.InOrder Token.atNames p.boundValues) ∧
    (∀ (p : Predicate) (sql : BoundSql), s.condition (some p) = .ok (some sql) →
      sql.InOrder Token.atNames p.boundValues) ∧
    (∀ (count : Nat) (predicate : Option Predicate) (limit : Option Nat) (sql : BoundSql),
      s.selectTop count predicate limit = .ok sql →
        sql.InOrder Token.atNames (Predicate.filterValues predicate)) ∧
    (∀ (record : Record) (sql : BoundSql), s.insert record = .ok sql →
      ∃ values, s.written record = .ok values ∧
        sql.InOrder Token.atNames (values.map (·.2))) ∧
    (∀ (record : Record) (predicate : Option Predicate) (limit : Option Nat) (sql : BoundSql),
      s.update record predicate limit = .ok sql →
        ∃ values, s.written record = .ok values ∧
          sql.InOrder Token.atNames (values.map (·.2) ++ Predicate.filterValues predicate)) ∧
    (∀ (columns : List (String × Value)) (predicate : Option Predicate) (limit : Option Nat)
        (sql : BoundSql), s.updateColumns columns predicate limit = .ok sql →
      sql.InOrder Token.atNames (columns.map (·.2) ++ Predicate.filterValues predicate)) ∧
    (∀ (predicate : Option Predicate) (limit : Option Nat) (sql : BoundSql),
      s.delete predicate limit = .ok sql →
        sql.InOrder Token.atNames (Predicate.filterValues predicate)) ∧
    (∀ (name : String) (arguments : List (String × Value)) (sql : BoundSql),
      storedProcedure name arguments = .ok sql →
        sql.InOrder (Token.assignedNames false) (arguments.map (·.2))) := by
  refine ⟨?condition, ?schemaCondition, ?selectTop, ?insert, ?update, ?updateColumns, ?delete,
    ?storedProcedure⟩
  case condition => exact fun p columns limit sql h => Predicate.inOrder_toSql h
  case schemaCondition => exact fun p sql h => Schema.inOrder_condition h
  case selectTop =>
    intro count predicate limit sql h
    rw [Schema.selectTop_eq] at h
    have horder := Schema.inOrder_command (s.scannable_selectHead count) h
    rwa [Schema.values_selectHead] at horder
  case insert => exact fun record sql h => Schema.inOrder_insert h
  case update =>
    intro record predicate limit sql h
    rcases bind_eq_ok.mp h with ⟨values, hvalues, h⟩
    exact ⟨values, hvalues, Schema.inOrder_updateValues h⟩
  case updateColumns => exact fun columns predicate limit sql h => Schema.inOrder_updateColumns h
  case delete =>
    intro predicate limit sql h
    rw [Schema.delete_eq] at h
    have horder := Schema.inOrder_command s.scannable_deleteHead h
    rwa [Schema.values_deleteHead] at horder
  case storedProcedure => exact fun name arguments sql h => inOrder_storedProcedure h

/-- A table with one text column and one column of truth values. -/
def Schema.notes : Schema where
  table := "dbo.Note"
  fields := [⟨"text", .plain .string, some ⟨"text", "Text", .text, false, false, none⟩⟩,
    ⟨"read", .plain .bool, some ⟨"read", "Is]Read", .boolean, false, false, none⟩⟩]
  handleType := "NoteFields"
  isPublic := true

/-- A numeral in the SET list and beside wildcards is bound, and one in a comparison is not. The
names of arguments are no placeholders. -/
theorem placeholders_in_text_order_notes :
    (∃ sql, Schema.notes.updateColumns [("Text", .int 7)]
        (some ((Predicate.startsWith (.field ⟨"text", .text⟩) (.constant (.uint 9))).and
          (.eq (.constant (.int 1)) (.constant (.text "x"))))) none = .ok sql ∧
      sql.InOrder Token.atNames [.int 7, .text "9", .text "x"]) ∧
    (∃ sql, storedProcedure "p" [("@param_1", .int 7), ("b", .null)] = .ok sql ∧
      sql.InOrder (Token.assignedNames false) [.int 7, .null]) := by
  rcases placeholders_in_text_order Schema.notes with ⟨-, -, -, -, -, hupdate, -, hcall⟩
  constructor
  · obtain ⟨sql, hsql⟩ : ∃ sql, Schema.notes.updateColumns [("Text", .int 7)]
        (some ((Predicate.startsWith (.field ⟨"text", .text⟩) (.constant (.uint 9))).and
          (.eq (.constant (.int 1)) (.constant (.text "x"))))) none = .ok sql :=
      exists_eq_ok (by decide +kernel)
    have hconstants : Predicate.filterValues
        (some ((Predicate.startsWith (.field ⟨"text", .text⟩) (.constant (.uint 9))).and
          (.eq (.constant (.int 1)) (.constant (.text "x"))))) = [.text "9", .text "x"] := by
      with_unfolding_all rfl
    have horder := hupdate _ _ _ sql hsql
    rw [hconstants] at horder
    exact ⟨sql, hsql, horder⟩
  · obtain ⟨sql, hsql⟩ : ∃ sql, storedProcedure "p" [("@param_1", .int 7), ("b", .null)] =
        .ok sql := exists_eq_ok (by decide +kernel)
    exact ⟨sql, hsql, hcall _ _ sql hsql⟩

end EntitySql
