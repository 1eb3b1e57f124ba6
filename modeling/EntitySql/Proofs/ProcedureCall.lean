import EntitySql.Proofs.ListReading
import Mathlib

/-! # Calls of stored procedures

A call holds two kinds of names that come from outside: the name of the procedure, which may be any
text, and the names of the arguments. The first is written in brackets, part by part. The others are
written as words, so they are checked: behind its at signs an argument has a name of ASCII letters,
digits and underscores, and the first argument that has none is reported. `ProcedureCall.ofText?`
reads the text of a call without knowing what it was made from, and finds the parts of the
procedure's name, the bare names of the arguments and the placeholders that they get.

Main statement: `procedure_call_reads_back`.
-/

namespace EntitySql

/-! ## Names of arguments -/

/-- The bare name of an argument: what stands behind all the at signs in front. -/
def IsBareName (name bare : String) : Prop :=
  (∃ n, name.toList = List.replicate n '@' ++ bare.toList) ∧ bare.toList.head? ≠ some '@'

/-- A character that the name of an argument may hold. -/
def IsNameChar (c : Char) : Prop :=
  ('a' ≤ c ∧ c ≤ 'z') ∨ ('A' ≤ c ∧ c ≤ 'Z') ∨ ('0' ≤ c ∧ c ≤ '9') ∨ c = '_'

/-- The bare name of an argument that can be written. -/
def IsArgumentName (bare : String) : Prop := bare ≠ "" ∧ ∀ c ∈ bare.toList, IsNameChar c

/-- What is at fault with an argument: its bare name cannot be written. -/
inductive Misnamed : String × Value → Error → Prop where
  | bare {name bare : String} {value : Value} (hbare : IsBareName name bare)
      (hname : ¬ IsArgumentName bare) : Misnamed (name, value) (.invalidParameterName bare)

/-- An argument has one bare name, the one that stripping gives. -/
theorem isBareName_iff {name bare : String} :
    IsBareName name bare ↔ bare = String.ofList (stripAt name) := by
  constructor
  · rintro ⟨⟨n, hsplit⟩, hhead⟩
    have hsigns : ∀ c ∈ List.replicate n '@', (c == '@') = true := by
      intro c hc
      simpa using List.eq_of_mem_replicate hc
    -- stripping stops at the bare name, which begins with another character
    have hstop : bare.toList.dropWhile (· == '@') = bare.toList := by
      cases hbare : bare.toList with
      | nil => rfl
      | cons c cs =>
          have hc : c ≠ '@' := by simpa [hbare] using hhead
          simp [hc]
    rw [stripAt, hsplit, List.dropWhile_append_of_pos hsigns, hstop, String.ofList_toList]
  · rintro rfl
    unfold IsBareName
    rw [String.toList_ofList, stripAt]
    constructor
    · refine ⟨(name.toList.takeWhile (· == '@')).length, ?_⟩
      have hsigns : name.toList.takeWhile (· == '@') =
          List.replicate (name.toList.takeWhile (· == '@')).length '@' := by
        apply List.eq_replicate_of_mem
        intro c hc
        simpa using List.mem_takeWhile_imp hc
      rw [← hsigns, List.takeWhile_append_dropWhile]
    · intro hhead
      have hnot := List.head?_dropWhile_not (· == '@') name.toList
      rw [hhead] at hnot
      cases hnot

theorem isNameChar_iff {c : Char} : IsNameChar c ↔ (c.isAlphanum || c == '_') = true := by
  unfold IsNameChar
  simp only [Char.isAlphanum, Char.isAlpha, Char.isUpper, Char.isLower, Char.isDigit,
    Bool.or_eq_true, Bool.and_eq_true, decide_eq_true_eq, beq_iff_eq, ge_iff_le]
  tauto

theorem isArgumentName_iff {cs : List Char} :
    IsArgumentName (String.ofList cs) ↔ isParameterName cs = true := by
  unfold IsArgumentName isParameterName
  simp only [String.toList_ofList, isNameChar_iff, Bool.and_eq_true, List.all_eq_true]
  apply and_congr_left
  intro _
  cases cs with
  | nil => simp
  | cons c cs => simp

instance (bare : String) : Decidable (IsArgumentName bare) :=
  decidable_of_iff (isParameterName bare.toList = true) (by
    rw [← isArgumentName_iff, String.ofList_toList])

/-- An argument is written under its bare name, if that can be written. -/
theorem parameterName_eq_ok_iff {name bare : String} :
    parameterName name = .ok bare ↔ IsBareName name bare ∧ IsArgumentName bare := by
  rw [isBareName_iff, parameterName]
  by_cases hname : isParameterName (stripAt name) = true
  · rw [if_pos hname, Except.ok.injEq]
    constructor
    · rintro rfl
      exact ⟨rfl, isArgumentName_iff.mpr hname⟩
    · rintro ⟨rfl, -⟩
      rfl
  · rw [if_neg hname]
    constructor
    · intro h
      cases h
    · rintro ⟨rfl, hargument⟩
      exact absurd (isArgumentName_iff.mp hargument) hname

theorem parameterName_eq_error_iff {a : String × Value} {cause : Error} :
    parameterName a.1 = .error cause ↔ Misnamed a cause := by
  rcases a with ⟨name, value⟩
  rw [parameterName]
  by_cases hname : isParameterName (stripAt name) = true
  · rw [if_pos hname]
    constructor
    · intro h
      cases h
    · rintro ⟨hbare, hnot⟩
      rw [isBareName_iff.mp hbare, isArgumentName_iff] at hnot
      exact absurd hname hnot
  · rw [if_neg hname, Except.error.injEq]
    constructor
    · rintro rfl
      exact .bare (isBareName_iff.mpr rfl) (mt isArgumentName_iff.mp hname)
    · rintro ⟨hbare, -⟩
      rw [isBareName_iff.mp hbare]

/-! ## Reading calls -/

/-- What a call says: the parts of the procedure's name, and the arguments with the placeholders
that they get. -/
structure ProcedureCall where
  procedure : List String
  arguments : List (String × String)
  deriving DecidableEq, Repr

/-- Reads an argument behind its at sign, with the placeholder that it gets. -/
def readArgument : ItemReader (String × String) := fun ts => do
  let (name, ts) ← readPlaceholder ts
  let ts ← ts.dropPrefix? [.space, .word "=", .space]
  let (value, ts) ← readPlaceholder ts
  return ((String.ofList (name.toList.drop 1), value), ts)

/-- Reads the text of a call to its end. -/
def ProcedureCall.ofText? (text : String) : Option ProcedureCall := do
  let ts ← Token.lex text.toList
  let ts ← ts.dropPrefix? [.word "EXEC", .space]
  let (procedure, ts) ← readList [.word "."] readName ts
  if ts.isEmpty then return ⟨procedure, []⟩
  let ts ← ts.dropPrefix? [.space]
  let (arguments, ts) ← readList [.comma, .space] readArgument ts
  if ts.isEmpty then return ⟨procedure, arguments⟩ else none

/-- The tokens of an argument. -/
def argumentTokens (a : String × String) : List Token :=
  [.word ("@" ++ a.1), .space, .word "=", .space, .word a.2]

theorem readArgument_argumentTokens (name : String) (n : Nat) (rest : List Token) :
    readArgument (argumentTokens (name, placeholder n) ++ rest) =
      some ((name, placeholder n), rest) := by
  have hhead : ("@" ++ name).toList = '@' :: name.toList := by simp
  have hat : Token.atName? (.word ("@" ++ name)) = some ("@" ++ name) := by
    apply if_pos
    rw [hhead]
    rfl
  have hbare : String.ofList (("@" ++ name).toList.drop 1) = name := by
    rw [hhead, List.drop_one, List.tail_cons, String.ofList_toList]
  have hname : ∀ ts, readPlaceholder (.word ("@" ++ name) :: ts) = some ("@" ++ name, ts) := by
    intro ts
    rw [readPlaceholder, hat]
    rfl
  have hdrop : ∀ ts : List Token, (.space :: .word "=" :: .space :: ts).dropPrefix?
      [.space, .word "=", .space] = some ts :=
    fun ts => dropPrefix?_append [.space, .word "=", .space] ts
  unfold readArgument argumentTokens
  simp only [List.cons_append, List.nil_append, hname, Option.bind_eq_bind, Option.bind_some,
    hdrop, readPlaceholder_placeholder, hbare]
  rfl

/-- The text of a call is read back. -/
theorem ProcedureCall.ofText?_callTemplate (name : String) {entries : List (String × Value)}
    (hwords : ∀ e ∈ entries, isWord ("@" ++ e.1).toList = true) :
    ofText? ((callTemplate name entries).text 0) = some ⟨objectParts name,
      (entries.map (·.1)).zip ((numbered 0 (entries.map (·.2))).map (·.1))⟩ := by
  have hlex := (readable_callTemplate name hwords).lex_text 0
  unfold ofText?
  rw [hlex]
  cases entries with
  | nil =>
      have htokens : (callTemplate name []).tokens 0 =
          [.word "EXEC", .space] ++ ((objectTemplate name).tokens 0 ++ []) := by
        simp [callTemplate]
      rw [htokens]
      simp only [Option.bind_eq_bind, Option.bind_some, dropPrefix?_append]
      rw [readList_objectTemplate name 0 rfl]
      rfl
  | cons e entries =>
      have htokens : (callTemplate name (e :: entries)).tokens 0 =
          [.word "EXEC", .space] ++ ((objectTemplate name).tokens 0 ++ ([.space] ++
            ((assignmentTemplate (fun a => .word ("@" ++ a.1)) (·.2) (e :: entries)).tokens 0 ++
              []))) := by
        simp [callTemplate]
      have hwrite : ∀ (a : String × Value) m, (assignTemplate (.word ("@" ++ a.1)) a.2).tokens m =
          argumentTokens (a.1, placeholder m) := fun _ _ => rfl
      have hend : ([] : List Token).dropPrefix? [.comma, .space] = none := rfl
      have harguments := readList_assignments hwrite (fun a => List.cons_ne_nil _ _)
        readArgument_argumentTokens (List.cons_ne_nil e entries) 0 hend
      rw [htokens]
      simp only [Option.bind_eq_bind, Option.bind_some, dropPrefix?_append]
      rw [readList_objectTemplate name 0 rfl]
      simp only [Option.bind_some, dropPrefix?_append]
      rw [harguments]
      rfl

/-! ## Outcomes of calls -/

/-- The command calls the procedure with the arguments: its text is read as the call, whose name has
the parts that its dots separate, each argument stands under its bare name, and the placeholders of
the arguments are bound to their values. -/
structure BoundSql.Calls (sql : BoundSql) (name : String) (arguments : List (String × Value))
    (call : ProcedureCall) : Prop where
  read : ProcedureCall.ofText? sql.text = some call
  procedure : call.procedure = (name.toList.splitOn '.').map String.ofList
  names : List.Forall₂ (fun a e => IsBareName a.1 e.1) arguments call.arguments
  placeholders : call.arguments.map (·.2) = (List.range arguments.length).map placeholder
  values : (call.arguments.map (·.2)).mapM sql.bindings.get? = some (arguments.map (·.2))
  /-- Nothing else is bound. -/
  bound : sql.bindings.names = call.arguments.map (·.2)
  /-- Without arguments nothing follows the name. -/
  alone : arguments = [] → sql.text = "EXEC " ++ Bracketed.quoteObject name

theorem exists_storedProcedure_iff {name : String} {arguments : List (String × Value)} :
    (∃ sql, storedProcedure name arguments = .ok sql) ↔
      ∀ a ∈ arguments, ∃ bare, IsBareName a.1 bare ∧ IsArgumentName bare := by
  have hnamed : (∃ sql, storedProcedure name arguments = .ok sql) ↔
      ∃ names, (arguments.mapM fun a => parameterName a.1) = .ok names := by
    rw [storedProcedure_eq]
    constructor
    · rintro ⟨sql, hsql⟩
      rcases map_eq_ok.mp hsql with ⟨names, hnames, -⟩
      exact ⟨names, hnames⟩
    · rintro ⟨names, hnames⟩
      exact ⟨_, map_eq_ok.mpr ⟨names, hnames, rfl⟩⟩
  have hfault : ∀ a ∈ arguments, ∀ cause, parameterName a.1 = .error cause ↔ Misnamed a cause :=
    fun a _ cause => parameterName_eq_error_iff
  rw [hnamed, exists_mapM_ok_iff hfault]
  refine forall₂_congr fun a ha => ?_
  rw [← exists_ok_iff_no_fault (hfault a ha)]
  simp only [parameterName_eq_ok_iff]

theorem storedProcedure_eq_error_iff {name : String} {arguments : List (String × Value)}
    {cause : Error} :
    storedProcedure name arguments = .error cause ↔ FirstFault Misnamed arguments cause := by
  rw [storedProcedure_eq, map_eq_error]
  exact mapM_eq_error_iff_firstFault fun a _ cause => parameterName_eq_error_iff

theorem text_storedProcedure_nil {name : String} {sql : BoundSql}
    (h : storedProcedure name [] = .ok sql) : sql.text = "EXEC " ++ Bracketed.quoteObject name := by
  have hempty : storedProcedure name [] =
      .ok ⟨"EXEC " ++ Bracketed.quoteObject name ++ "", Context.empty.bindings⟩ := rfl
  rw [hempty] at h
  rw [← Except.ok.inj h]
  exact String.append_empty

/-- A call that is made says what it was given. -/
theorem exists_calls {name : String} {arguments : List (String × Value)} {sql : BoundSql}
    (h : storedProcedure name arguments = .ok sql) : ∃ call, sql.Calls name arguments call := by
  have halone : arguments = [] → sql.text = "EXEC " ++ Bracketed.quoteObject name := by
    rintro rfl
    exact text_storedProcedure_nil h
  rw [storedProcedure_eq] at h
  rcases map_eq_ok.mp h with ⟨names, hnames, rfl⟩
  have hlength : names.length = (arguments.map (·.2)).length := by
    rw [List.length_map]
    exact (forall₂_of_mapM hnames).length_eq.symm
  have hfst : (names.zip (arguments.map (·.2))).map (·.1) = names := List.map_fst_zip hlength.le
  have hsnd : (names.zip (arguments.map (·.2))).map (·.2) = arguments.map (·.2) :=
    List.map_snd_zip hlength.ge
  have hwords : ∀ e ∈ names.zip (arguments.map (·.2)), isWord ("@" ++ e.1).toList = true := by
    intro e he
    rcases exists_of_mem_mapM hnames (List.of_mem_zip he).1 with ⟨a, -, ha⟩
    exact isWord_parameterName ha
  have hread := ProcedureCall.ofText?_callTemplate name hwords
  rw [hfst, hsnd] at hread
  have hnumbered : names.length = ((numbered 0 (arguments.map (·.2))).map (·.1)).length := by
    simpa [map_fst_numbered] using hlength
  have hplaceholders : ((names.zip ((numbered 0 (arguments.map (·.2))).map (·.1))).map (·.2)) =
      (numbered 0 (arguments.map (·.2))).map (·.1) := List.map_snd_zip hnumbered.ge
  refine ⟨⟨objectParts name, names.zip ((numbered 0 (arguments.map (·.2))).map (·.1))⟩,
    ?read, ?procedure, ?names, ?placeholders, ?values, ?bound, halone⟩
  case read => exact hread
  case procedure => rw [objectParts, Bracketed.parts_eq_splitOn]
  case names =>
    have hbare : List.Forall₂ (fun a bare => IsBareName a.1 bare) arguments names :=
      (forall₂_of_mapM hnames).imp fun a bare hname => (parameterName_eq_ok_iff.mp hname).1
    rw [← List.map_fst_zip hnumbered.le] at hbare
    exact List.forall₂_map_right_iff.mp hbare
  case placeholders =>
    rw [hplaceholders, map_fst_numbered, List.length_map, List.range_eq_range']
  case values =>
    have hbound := mapM_get?_numbered (arguments.map (·.2)) []
    rw [List.append_nil] at hbound
    rw [hplaceholders, BoundSql.ofTemplate, values_callTemplate, hsnd]
    exact hbound
  case bound =>
    rw [hplaceholders, BoundSql.names_ofTemplate, values_callTemplate, hsnd, map_fst_numbered,
      List.range_eq_range']

/-- A call is made exactly when every argument has a bare name of letters, digits and underscores;
otherwise the first bare name that is none is reported. The text of a call is read back as the parts
of the procedure's name and the arguments, each bound to its value. -/
theorem procedure_call_reads_back (name : String) (arguments : List (String × Value)) :
    ((∃ sql, storedProcedure name arguments = .ok sql) ↔
      ∀ a ∈ arguments, ∃ bare, IsBareName a.1 bare ∧ IsArgumentName bare) ∧
    (∀ cause, storedProcedure name arguments = .error cause ↔
      FirstFault Misnamed arguments cause) ∧
    ∀ sql, storedProcedure name arguments = .ok sql → ∃ call, sql.Calls name arguments call := by
  refine ⟨exists_storedProcedure_iff, ?_, ?_⟩
  · intro cause
    exact storedProcedure_eq_error_iff
  · intro sql h
    exact exists_calls h

/-- A procedure's name that ends in a comment, and arguments of which one has two at signs. Of two
names that cannot be written the first one is reported, without its at sign. -/
theorem procedure_call_reads_back_comment :
    (∃ sql call, storedProcedure "dbo.x] @a = 1; --" [("@@min", .int 18), ("Max_1", .text "--")] =
        .ok sql ∧
      sql.Calls "dbo.x] @a = 1; --" [("@@min", .int 18), ("Max_1", .text "--")] call ∧
      call.procedure = ["dbo", "x] @a = 1; --"]) ∧
    storedProcedure "p" [("a", .null), ("@b c", .null), ("@", .null)] =
      .error (.invalidParameterName "b c") := by
  constructor
  · rcases procedure_call_reads_back "dbo.x] @a = 1; --"
      [("@@min", .int 18), ("Max_1", .text "--")] with ⟨hok, -, hcalls⟩
    have hmin : IsBareName "@@min" "min" := ⟨⟨2, rfl⟩, by decide⟩
    have hmax : IsBareName "Max_1" "Max_1" := ⟨⟨0, rfl⟩, by decide⟩
    have hnames : ∀ a ∈ [("@@min", Value.int 18), ("Max_1", .text "--")],
        ∃ bare, IsBareName a.1 bare ∧ IsArgumentName bare := by
      intro a ha
      rcases List.mem_pair.mp ha with rfl | rfl
      · exact ⟨"min", hmin, by decide⟩
      · exact ⟨"Max_1", hmax, by decide⟩
    rcases hok.mpr hnames with ⟨sql, hsql⟩
    rcases hcalls sql hsql with ⟨call, hcall⟩
    refine ⟨sql, call, hsql, hcall, ?_⟩
    rw [hcall.procedure]
    decide
  · rcases procedure_call_reads_back "p" [("a", .null), ("@b c", .null), ("@", .null)] with
      ⟨-, herror, -⟩
    have hbare : IsBareName "@b c" "b c" := ⟨⟨1, rfl⟩, by decide⟩
    have hmisnamed : Misnamed ("@b c", .null) (.invalidParameterName "b c") :=
      .bare hbare (by decide)
    have hfirst : ∀ a ∈ [("a", Value.null)], ¬ ∃ cause, Misnamed a cause := by
      rintro a ha ⟨cause, hcause⟩
      obtain rfl := List.mem_singleton.mp ha
      cases hcause with
      | bare hname hnot =>
          rw [isBareName_iff.mp hname] at hnot
          exact hnot (by decide)
    have hfault : FirstFault Misnamed [("a", .null), ("@b c", .null), ("@", .null)]
        (.invalidParameterName "b c") :=
      ⟨_, ⟨[("a", .null)], [("@", .null)], rfl, ⟨_, hmisnamed⟩, hfirst⟩, hmisnamed⟩
    exact (herror _).mpr hfault

end EntitySql
