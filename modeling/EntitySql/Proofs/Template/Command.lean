import EntitySql.Command
import EntitySql.Proofs.Checked
import EntitySql.Proofs.Template.Expression

/-! # Templates of commands

Every command is the writing of a template numbered from zero: a head, which holds the written
values, and the filter. The theorems `selectTop_eq`, `insert_eq`, `updateValues_eq`, `delete_eq`,
`storedProcedure_eq` and `condition_eq` say which template, and with which error a command fails.
-/

namespace EntitySql

/-- A template written from placeholder zero on, with its bindings. -/
def BoundSql.ofTemplate (t : Template) : BoundSql := ⟨t.text 0, ⟨numbered 0 t.values⟩⟩

/-- The text of a template with the context that has bound its values. -/
theorem BoundSql.ofTemplate_eq {t : Template} {text : String} {ctx : Context}
    (htext : text = t.text 0) (hctx : ctx = Context.empty.bindAll t.values) :
    (⟨text, ctx.bindings⟩ : BoundSql) = ofTemplate t := by
  have hentries := Context.entries_bindAll t.values .empty
  rw [← hctx] at hentries
  change BoundSql.mk text ⟨ctx.bindings.entries⟩ = _
  rw [hentries, htext]
  rfl

namespace Template

theorem text_ofTokens (n : Nat) (ts : List Token) :
    (ofTokens ts).text n = String.ofList (Token.write ts) := by
  rw [text, tokens_ofTokens]

/-- Templates with a separator between neighbours. -/
def join (separator : List Token) : List Template → Template
  | [] => []
  | [t] => t
  | t :: rest => t ++ (ofTokens separator ++ join separator rest)

/-- The texts of templates that are numbered one after the other. -/
def texts : (n : Nat) → List Template → List String
  | _, [] => []
  | n, t :: rest => t.text n :: texts (n + t.values.length) rest

theorem values_join (separator : List Token) (ts : List Template) :
    (join separator ts).values = ts.flatMap values := by
  induction ts using join.induct with
  | case1 => rfl
  | case2 t => simp [join]
  | case3 t rest hne ih =>
      rw [join]
      · simp [ih]
      · exact hne

/-- The text of joined templates is that of their texts with the separator's text between them. -/
theorem text_join {separator : List Token} {text : String}
    (h : text.toList = Token.write separator) (n : Nat) (ts : List Template) :
    (join separator ts).text n = separated text (texts n ts) := by
  induction ts using join.induct generalizing n with
  | case1 => rfl
  | case2 t => rfl
  | case3 t rest hne ih =>
      cases rest with
      | nil => exact absurd rfl hne
      | cons u rest =>
          -- the separator has no slots, so the numbers go on behind the first template
          have hsep : (ofTokens separator).text (n + t.values.length) = text := by
            rw [Template.text, tokens_ofTokens, ← h, String.ofList_toList]
          have hih := ih (n + t.values.length)
          rw [texts] at hih
          rw [join, text_append, text_append, values_ofTokens, hsep, texts, texts,
            separated_cons_cons, List.length_nil, Nat.add_zero, hih, String.append_assoc]
          exact hne

end Template

/-! ## Names -/

/-- The tokens of an object name: its parts, divided by dots. -/
def objectTemplate (name : String) : Template :=
  .join [.word "."] ((Bracketed.parts name.toList).map fun part =>
    [.token (.name (String.ofList part))])

/-- The tokens of a list of columns. -/
def columnTemplate (columns : List Column) : Template :=
  .join [.comma, .space] (columns.map fun c => [.token (.name c.name)])

/-- Templates without slots are not numbered. -/
theorem Template.texts_of_values_nil {ts : List Template} (h : ∀ t ∈ ts, t.values = [])
    (n : Nat) : Template.texts n ts = ts.map (Template.text n) := by
  induction ts with
  | nil => rfl
  | cons t ts ih =>
      have ht : t.values = [] := h t List.mem_cons_self
      rw [texts, ht, List.length_nil, Nat.add_zero, List.map_cons,
        ih fun u hu => h u (List.mem_cons_of_mem t hu)]

@[simp] theorem values_objectTemplate (name : String) : (objectTemplate name).values = [] := by
  simp [objectTemplate, Template.values_join]

@[simp] theorem values_columnTemplate (columns : List Column) :
    (columnTemplate columns).values = [] := by
  simp [columnTemplate, Template.values_join]

theorem toList_separated_dot (ps : List (List Char)) :
    (separated "." (ps.map String.ofList)).toList = Bracketed.joinParts ps := by
  induction ps using Bracketed.joinParts.induct with
  | case1 => rfl
  | case2 p => simp [Bracketed.joinParts]
  | case3 p rest hne ih =>
      cases rest with
      | nil => exact absurd rfl hne
      | cons q rest =>
          rw [List.map_cons] at ih
          simp [Bracketed.joinParts, ih]

theorem text_objectTemplate (n : Nat) (name : String) :
    (objectTemplate name).text n = Bracketed.quoteObject name := by
  have hname : ∀ part : List Char,
      Template.text n [.token (.name (String.ofList part))] =
        String.ofList (Bracketed.quoteChars part) := by
    intro part
    simp [Template.text, Token.chars]
  have hdot : ".".toList = Token.write [.word "."] := rfl
  rw [objectTemplate, Template.text_join hdot, Template.texts_of_values_nil (by simp),
    List.map_map]
  apply String.ext
  rw [Bracketed.quoteObject, String.toList_ofList, ← toList_separated_dot, List.map_map]
  congr 2
  exact List.map_congr_left fun part _ => hname part

theorem toList_comma : ", ".toList = Token.write [.comma, .space] := rfl

theorem text_columnTemplate (n : Nat) (columns : List Column) :
    (columnTemplate columns).text n = Schema.columnList columns := by
  have hname : ∀ c : Column,
      Template.text n [.token (.name c.name)] = Bracketed.quote c.name := by
    intro c
    simp [Template.text, Token.chars, Bracketed.quote]
  rw [columnTemplate, Template.text_join toList_comma, Template.texts_of_values_nil (by simp),
    List.map_map]
  congr 1
  exact List.map_congr_left fun c _ => hname c

/-! ## Filters -/

/-- A whole condition is the writing of its template, if every operator in it has a token. -/
theorem Expression.toSql_eq (e : Expression) :
    e.toSql =
      match e.unsupported? with
      | none => .ok (.ofTemplate e.rootTemplate)
      | some op => .error (.unsupportedOperator op) := by
  have hwrites := writes_rootTemplate e
  cases hop : e.unsupported? with
  | none =>
      rw [hop] at hwrites
      simp only [toSql, hwrites.run_ok Context.empty]
      exact congrArg Except.ok (BoundSql.ofTemplate_eq rfl rfl)
  | some op =>
      rw [hop] at hwrites
      rcases hwrites.run_error Context.empty with ⟨values, hrun⟩
      simp only [toSql, hrun]

/-- The expression of a predicate, if it compiles and every operator in it has a token. -/
def Predicate.compiled (p : Predicate) (columns : Resolver) (limit : Option Nat) :
    Except PredicateError Expression :=
  match p.compile columns limit with
  | .error cause => .error cause
  | .ok e =>
    match e.unsupported? with
    | some op => .error (.unsupportedOperator op)
    | none => .ok e

theorem Predicate.compiled_eq_ok {p : Predicate} {columns : Resolver} {limit : Option Nat}
    {e : Expression} (h : p.compiled columns limit = .ok e) :
    p.compile columns limit = .ok e ∧ e.unsupported? = none := by
  rw [compiled] at h
  cases hcompile : p.compile columns limit with
  | error cause => simp [hcompile] at h
  | ok e' =>
      cases hop : e'.unsupported? with
      | some op => simp [hcompile, hop] at h
      | none =>
          obtain rfl : e' = e := by simpa [hcompile, hop] using h
          exact ⟨rfl, hop⟩

/-- A predicate on its own is the writing of its expression's template. -/
theorem Predicate.compile_toSql_eq (p : Predicate) (columns : Resolver) (limit : Option Nat) :
    (p.compile columns limit >>= Expression.toSql) =
      (p.compiled columns limit).map fun e => BoundSql.ofTemplate e.rootTemplate := by
  rw [compiled]
  cases p.compile columns limit with
  | error cause => rfl
  | ok e =>
      change e.toSql = _
      rw [Expression.toSql_eq]
      cases hop : e.unsupported? with
      | none => simp only [hop]; rfl
      | some op => simp only [hop]; rfl

namespace Schema

/-- The template of the part of a command behind its head. -/
def filterTemplate (s : Schema) (predicate : Option Predicate) (limit : Option Nat) :
    Except PredicateError Template :=
  match predicate with
  | none => .ok []
  | some p =>
    (p.compiled s.resolver limit).map fun e =>
      .ofTokens [.space, .word "WHERE", .space] ++ e.rootTemplate

/-- A condition of a schema is that of its predicate over the schema's columns. -/
theorem condition_eq (s : Schema) (p : Predicate) :
    s.condition (some p) = (p.compile s.resolver none >>= Expression.toSql).map some := by
  rw [condition]
  cases p.compile s.resolver none with
  | error cause => rfl
  | ok e =>
      change (e.toSql >>= fun sql => pure (some sql)) = e.toSql.map some
      cases e.toSql <;> rfl

/-- The filter writes its template. -/
theorem writes_filter (s : Schema) (predicate : Option Predicate) (limit : Option Nat) :
    ∃ t failure, Writes (s.filter predicate limit) t failure ∧
      s.filterTemplate predicate limit =
        match failure with
        | none => .ok t
        | some cause => .error cause := by
  cases predicate with
  | none => exact ⟨_, none, Writes.of_pure [] rfl, rfl⟩
  | some p =>
      simp only [filterTemplate, Predicate.compiled, filter]
      cases p.compile s.resolver limit with
      -- a predicate that does not compile fails before anything is written
      | error cause => exact ⟨[], some cause, Writes.of_throw cause [], rfl⟩
      | ok e =>
          have hwrites : Writes (e.renderRoot >>= fun text => pure (" WHERE " ++ text))
              (.ofTokens [.space, .word "WHERE", .space] ++ e.rootTemplate)
              (e.unsupported?.map .unsupportedOperator) := by
            rw [← map_eq_pure_bind]
            apply (Expression.writes_rootTemplate e).map
            · intro n
              rw [Template.text_append, Template.values_ofTokens, List.length_nil, Nat.add_zero]
              rfl
            · simp
          refine ⟨_, _, hwrites, ?_⟩
          cases hop : e.unsupported? with
          | none =>
              simp only [hop]
              rfl
          | some op =>
              simp only [hop]
              rfl

/-- A command is the writing of its head and its filter, one after the other. -/
theorem command_eq (s : Schema) {head : String} {ctx : Context} {h : Template}
    (hhead : head = h.text 0) (hctx : ctx = Context.empty.bindAll h.values)
    (predicate : Option Predicate) (limit : Option Nat) :
    s.command head ctx predicate limit =
      ((s.filterTemplate predicate limit).map fun t => BoundSql.ofTemplate (h ++ t)).mapError
        .predicate := by
  rcases s.writes_filter predicate limit with ⟨t, failure, hwrites, hfilter⟩
  rw [command, BoundSql.ofHead, hfilter]
  cases failure with
  | some cause =>
      rcases hwrites.run_error ctx with ⟨values, hrun⟩
      rw [hrun]
      rfl
  | none =>
      -- the filter is numbered from where the head stops
      have htext : head ++ t.text ctx.counter = (h ++ t).text 0 := by
        rw [Template.text_append, hhead, hctx, Context.counter_bindAll]
        rfl
      have hbind : ctx.bindAll t.values = Context.empty.bindAll (h ++ t).values := by
        rw [hctx, Template.values_append, Context.bindAll_append]
      rw [hwrites.run_ok ctx]
      exact congrArg (fun sql => Except.mapError Error.predicate (.ok sql))
        (BoundSql.ofTemplate_eq htext hbind)

end Schema

/-! ## Written values -/

/-- Words with spaces between them. -/
def phrase (words : List String) : Template :=
  .ofTokens ((words.map Token.word).intersperse .space)

/-- The slots of a value list. -/
def slotTemplate (values : List Value) : Template :=
  .join [.comma, .space] (values.map fun value => [.slot value])

/-- The assignment of a value to what a token names. -/
def assignTemplate (target : Token) (value : Value) : Template :=
  [.token target, .token .space, .token (.word "="), .token .space, .slot value]

/-- Assignments of values, each to what its token names. -/
def assignmentTemplate {α : Type} (target : α → Token) (value : α → Value) (items : List α) :
    Template :=
  .join [.comma, .space] (items.map fun item => assignTemplate (target item) (value item))

/-- The names of the placeholders that values are bound to. -/
theorem Context.bindValues_fst (values : List Value) (ctx : Context) :
    (ctx.bindValues values).1 = (numbered ctx.counter values).map (·.1) := by
  induction values generalizing ctx with
  | nil => rfl
  | cons v values ih =>
      have hrest := ih (ctx.bindValue v).2
      change placeholder ctx.counter :: ((ctx.bindValue v).2.bindValues values).1 = _
      rw [hrest]
      rfl

@[simp] theorem values_slotTemplate (values : List Value) :
    (slotTemplate values).values = values := by
  have hone : ∀ v : Value, Template.values [.slot v] = [v] := fun _ => rfl
  simp [slotTemplate, Template.values_join, List.flatMap_map, hone]

@[simp] theorem values_assignmentTemplate {α : Type} (target : α → Token) (value : α → Value)
    (items : List α) : (assignmentTemplate target value items).values = items.map value := by
  have hone : ∀ item, (assignTemplate (target item) (value item)).values = [value item] :=
    fun _ => rfl
  rw [assignmentTemplate, Template.values_join, List.flatMap_map]
  simp only [hone]
  exact List.map_eq_flatMap.symm

@[simp] theorem values_phrase (words : List String) : (phrase words).values = [] := by
  simp [phrase]

theorem text_slotTemplate (n : Nat) (values : List Value) :
    (slotTemplate values).text n = commaSeparated ((numbered n values).map (·.1)) := by
  have htexts : ∀ n, Template.texts n (values.map fun value => [.slot value]) =
      (numbered n values).map (·.1) := by
    induction values with
    | nil => exact fun _ => rfl
    | cons v values ih =>
        intro n
        have hone : Template.text n [.slot v] = placeholder n := by
          simp [Template.text, Token.chars]
        rw [List.map_cons, Template.texts, hone]
        exact congrArg _ (ih (n + 1))
  rw [slotTemplate, Template.text_join toList_comma, htexts]

theorem text_assignmentTemplate {α : Type} (target : α → Token) (value : α → Value)
    (items : List α) (n : Nat) :
    (assignmentTemplate target value items).text n =
      commaSeparated ((items.zip ((numbered n (items.map value)).map (·.1))).map
        fun a => String.ofList (target a.1).chars ++ " = " ++ a.2) := by
  have htexts : ∀ n,
      Template.texts n (items.map fun item => assignTemplate (target item) (value item)) =
        (items.zip ((numbered n (items.map value)).map (·.1))).map
          fun a => String.ofList (target a.1).chars ++ " = " ++ a.2 := by
    induction items with
    | nil => exact fun _ => rfl
    | cons item items ih =>
        intro n
        have hone : (assignTemplate (target item) (value item)).text n =
            String.ofList (target item).chars ++ " = " ++ placeholder n := by
          apply String.ext
          simp [assignTemplate, Template.text, Token.chars]
        rw [List.map_cons, Template.texts, hone]
        exact congrArg _ (ih (n + 1))
  rw [assignmentTemplate, Template.text_join toList_comma, htexts]

/-! ## Commands of a schema -/

namespace Schema

/-- The head of a selection. -/
def selectHead (s : Schema) (count : Nat) : Template :=
  phrase ["SELECT", "TOP", Numeral.ofNat count] ++ (.ofTokens [.space] ++
    (columnTemplate s.columns ++
      (.ofTokens [.space, .word "FROM", .space] ++ objectTemplate s.table)))

/-- The head of a deletion. -/
def deleteHead (s : Schema) : Template :=
  phrase ["DELETE", "FROM"] ++ (.ofTokens [.space] ++ objectTemplate s.table)

/-- The head of an update. -/
def updateHead (s : Schema) (values : List (Column × Value)) : Template :=
  .ofTokens [.word "UPDATE", .space] ++ (objectTemplate s.table ++
    (.ofTokens [.space, .word "SET", .space] ++
      assignmentTemplate (fun e => .name e.1.name) (·.2) values))

/-- An insertion of values, or of a row of defaults. -/
def insertTemplate (s : Schema) (values : List (Column × Value)) : Template :=
  phrase ["INSERT", "INTO"] ++ (.ofTokens [.space] ++ (objectTemplate s.table ++
    if values.isEmpty then
      .ofTokens [.space] ++ phrase ["OUTPUT", "INSERTED.*", "DEFAULT", "VALUES"]
    else
      .ofTokens [.space, .opening] ++ (columnTemplate (values.map (·.1)) ++
        (.ofTokens [.closing, .space] ++ (phrase ["OUTPUT", "INSERTED.*", "VALUES"] ++
          (.ofTokens [.space, .opening] ++ (slotTemplate (values.map (·.2)) ++
            .ofTokens [.closing])))))))

@[simp] theorem values_selectHead (s : Schema) (count : Nat) :
    (s.selectHead count).values = [] := by
  simp [selectHead]

@[simp] theorem values_deleteHead (s : Schema) : s.deleteHead.values = [] := by
  simp [deleteHead]

@[simp] theorem values_updateHead (s : Schema) (values : List (Column × Value)) :
    (s.updateHead values).values = values.map (·.2) := by
  simp [updateHead]

@[simp] theorem values_insertTemplate (s : Schema) (values : List (Column × Value)) :
    (s.insertTemplate values).values = values.map (·.2) := by
  cases values with
  | nil => simp [insertTemplate]
  | cons e values => simp [insertTemplate]

/-- A selection is the writing of its head and its filter. -/
theorem selectTop_eq (s : Schema) (count : Nat) (predicate : Option Predicate)
    (limit : Option Nat) :
    s.selectTop count predicate limit =
      ((s.filterTemplate predicate limit).map fun t =>
        BoundSql.ofTemplate (s.selectHead count ++ t)).mapError .predicate := by
  apply s.command_eq
  · apply String.ext
    simp [selectHead, phrase, Template.text_append, text_columnTemplate, text_objectTemplate,
      Template.text_ofTokens, Token.chars]
  · simp

/-- A deletion is the writing of its head and its filter. -/
theorem delete_eq (s : Schema) (predicate : Option Predicate) (limit : Option Nat) :
    s.delete predicate limit =
      ((s.filterTemplate predicate limit).map fun t =>
        BoundSql.ofTemplate (s.deleteHead ++ t)).mapError .predicate := by
  apply s.command_eq
  · apply String.ext
    simp [deleteHead, phrase, Template.text_append, text_objectTemplate, Template.text_ofTokens,
      Token.chars]
  · simp

/-- An update that sets something is the writing of its head and its filter. -/
theorem updateValues_eq (s : Schema) {values : List (Column × Value)} (hne : values ≠ [])
    (predicate : Option Predicate) (limit : Option Nat) :
    s.updateValues values predicate limit =
      ((s.filterTemplate predicate limit).map fun t =>
        BoundSql.ofTemplate (s.updateHead values ++ t)).mapError .predicate := by
  have hempty : values.isEmpty = false := by simpa using hne
  rw [updateValues, hempty]
  apply s.command_eq
  · rw [updateHead, Template.text_append, Template.text_append, Template.text_append,
      text_objectTemplate, text_assignmentTemplate]
    simp only [Template.values_ofTokens, values_objectTemplate, List.length_nil, Nat.add_zero,
      Template.text_ofTokens, Context.bindValues_fst, String.append_assoc]
    rfl
  · rw [values_updateHead]
    rfl

/-- An insertion is the writing of one template. -/
theorem insert_eq (s : Schema) (record : Record) :
    s.insert record =
      (s.written record).map fun values => BoundSql.ofTemplate (s.insertTemplate values) := by
  rw [insert]
  cases s.written record with
  | error cause => rfl
  | ok values =>
      cases hempty : values.isEmpty with
      | true =>
          rcases List.isEmpty_iff.mp hempty with rfl
          apply congrArg Except.ok
          refine @BoundSql.ofTemplate_eq _ _ .empty ?_ ?_
          · apply String.ext
            simp [insertTemplate, phrase, Template.text_append, text_objectTemplate,
              Template.text_ofTokens, Token.chars]
          · rw [values_insertTemplate]
            rfl
      | false =>
          change (if values.isEmpty = true then _ else _) = _
          rw [hempty, if_neg Bool.false_ne_true]
          apply congrArg Except.ok
          apply BoundSql.ofTemplate_eq
          · apply String.ext
            simp [insertTemplate, hempty, phrase, Template.text_append, text_columnTemplate,
              text_slotTemplate, text_objectTemplate, Template.text_ofTokens, Token.chars,
              Context.bindValues_fst]
            rfl
          · rw [values_insertTemplate]
            rfl

end Schema

/-- A call of a stored procedure. -/
def callTemplate (name : String) (arguments : List (String × Value)) : Template :=
  .ofTokens [.word "EXEC", .space] ++ (objectTemplate name ++
    if arguments.isEmpty then []
    else .ofTokens [.space] ++ assignmentTemplate (fun a => .word ("@" ++ a.1)) (·.2) arguments)

@[simp] theorem values_callTemplate (name : String) (arguments : List (String × Value)) :
    (callTemplate name arguments).values = arguments.map (·.2) := by
  cases arguments with
  | nil => simp [callTemplate]
  | cons a arguments => simp [callTemplate]

/-- Values that are numbered and named are as many as the names of their placeholders. -/
theorem zip_numbered {α : Type} (f : String → String → α) {names : List String}
    {values : List Value} (h : names.length = values.length) (n : Nat) :
    ((names.zip values).zip ((numbered n ((names.zip values).map (·.2))).map (·.1))).map
        (fun a => f a.1.1 a.2) =
      (names.zip ((numbered n values).map (·.1))).map fun e => f e.1 e.2 := by
  induction names generalizing values n with
  | nil => rfl
  | cons name names ih =>
      cases values with
      | nil => simp at h
      | cons value values =>
          have hlength : names.length = values.length := by simpa using h
          simp only [List.zip_cons_cons, List.map_cons, numbered, ih hlength]

/-- A call is the writing of one template. -/
theorem storedProcedure_eq (name : String) (arguments : List (String × Value)) :
    storedProcedure name arguments =
      (arguments.mapM fun a => parameterName a.1).map fun parameters =>
        BoundSql.ofTemplate (callTemplate name (parameters.zip (arguments.map (·.2)))) := by
  rw [storedProcedure]
  cases h : arguments.mapM fun a => parameterName a.1 with
  | error cause => rfl
  | ok parameters =>
      have hlength : parameters.length = (arguments.map (·.2)).length := by
        rw [List.length_map]
        exact (forall₂_of_mapM h).length_eq.symm
      generalize arguments.map (·.2) = values at hlength ⊢
      apply congrArg Except.ok
      apply BoundSql.ofTemplate_eq
      · cases parameters with
        | nil =>
            apply String.ext
            simp [callTemplate, Template.text_append, text_objectTemplate, Template.text_ofTokens,
              Token.chars]
        | cons parameter parameters =>
            cases values with
            | nil => simp at hlength
            | cons value values =>
                have hempty :
                    ¬((parameter :: parameters).zip (value :: values)).isEmpty = true := by
                  simp
                rw [callTemplate, if_neg hempty, Context.bindValues_fst,
                  if_neg (by simp [numbered])]
                rw [Template.text_append, Template.text_append, Template.text_append,
                  text_objectTemplate, text_assignmentTemplate]
                simp only [Template.values_ofTokens, values_objectTemplate, List.length_nil,
                  Nat.add_zero, Template.text_ofTokens]
                rw [zip_numbered (fun parameter n =>
                  String.ofList (Token.word ("@" ++ parameter)).chars ++ " = " ++ n) hlength]
                simp [Context.empty, Token.chars]
                rfl
      · rw [values_callTemplate, List.map_snd_zip hlength.ge]
        rfl

end EntitySql
