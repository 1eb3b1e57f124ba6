import EntitySql.Proofs.Session.Batch

/-! # Conversations

What a session says to the database over a whole run, and what it makes of the replies. An operation
whose command cannot be built fails without a call; any other but a batch makes one call, of the
command that was built, and its result is read off the one reply. A batch does what
`Session.StoresEach` says. No operation depends on those before it but by the replies that they have
taken, and one that fails does not end the run.

A step of a run is described by `Operation.Does`, and a whole run by `Conversation`; both are
relations with a rule for each thing that can happen. Main statement: `converse_iff_conversation`.
-/

namespace EntitySql

/-- Runs operations one after the other on one exchange. An operation that fails does not end the
run. -/
def Session.converse (settings : Settings) :
    List (Schema × Operation) → Exchange → List (Except Error Answer) × Exchange
  | [], exchange => ([], exchange)
  | (s, operation) :: rest, exchange =>
    let (result, exchange) := (operation.run settings s).run exchange
    let (results, exchange) := converse settings rest exchange
    (result :: results, exchange)

/-! ## Operations -/

/-- The records of rows, one for each row in the order of the rows, or the error of the first row
that cannot be decoded. -/
inductive Schema.DecodesAll (s : Schema) (rows : List Row) : Except Error (List Record) → Prop where
  | decoded {records : List Record}
      (h : List.Forall₂ (fun row record => s.decode row = .ok record) rows records) :
      DecodesAll s rows (.ok records)
  | failed {before after : List Row} {row : Row} {cause : Error}
      (hrows : rows = before ++ row :: after)
      (hbefore : ∀ earlier ∈ before, ∃ record, s.decode earlier = .ok record)
      (hrow : s.decode row = .error cause) :
      DecodesAll s rows (.error cause)

namespace Operation

/-- The call that an operation has to make, or the error of a command that cannot be built. A batch
has more than one call, so it has none here. -/
def request? (settings : Settings) (s : Schema) : Operation → Option (Except Error Call)
  | select predicate => some ((s.selectTop 1 predicate settings.maxDepth).map .query)
  | selectMany limit predicate =>
    some ((s.selectTop (limit.getD settings.selectLimit) predicate settings.maxDepth).map .query)
  | insert record => some ((s.insert record).map .query)
  | insertMany _ => none
  | update record predicate => some ((s.update record predicate settings.maxDepth).map .execute)
  | updateColumns columns predicate =>
    some ((s.updateColumns columns predicate settings.maxDepth).map .execute)
  | delete predicate => some ((s.delete predicate settings.maxDepth).map .execute)
  | invoke name arguments => some ((storedProcedure name arguments).map .query)

/-- What an operation makes of the reply to its call. -/
inductive Answers (s : Schema) (reply : Option Reply) :
    Operation → Except Error Answer → Prop where
  | failed (operation : Operation) {reason : String} (h : reply = some (.failure reason)) :
      Answers s reply operation (.error (.executor reason))
  | nothing {predicate : Option Predicate} (h : Reply.GivesRows reply []) :
      Answers s reply (.select predicate) (.ok (.found none))
  | found {predicate : Option Predicate} {row : Row} {rest : List Row}
      (h : Reply.GivesRows reply (row :: rest)) :
      Answers s reply (.select predicate) ((s.decode row).map fun record => .found (some record))
  | selected {limit : Option Nat} {predicate : Option Predicate} {rows : List Row}
      {result : Except Error (List Record)} (h : Reply.GivesRows reply rows)
      (hrows : s.DecodesAll rows result) :
      Answers s reply (.selectMany limit predicate) (result.map .records)
  | stored {record : Record} {result : Except Error Record} (h : Session.Stores s reply result) :
      Answers s reply (.insert record) (result.map .stored)
  | updated {record : Record} {predicate : Option Predicate} {count : Nat}
      (h : Reply.GivesCount reply count) :
      Answers s reply (.update record predicate) (.ok (.affected count))
  | columnsUpdated {columns : List (String × Value)} {predicate : Option Predicate} {count : Nat}
      (h : Reply.GivesCount reply count) :
      Answers s reply (.updateColumns columns predicate) (.ok (.affected count))
  | deleted {predicate : Option Predicate} {count : Nat} (h : Reply.GivesCount reply count) :
      Answers s reply (.delete predicate) (.ok (.affected count))
  | invoked {name : String} {arguments : List (String × Value)} {rows : List Row}
      {result : Except Error (List Record)} (h : Reply.GivesRows reply rows)
      (hrows : s.DecodesAll rows result) :
      Answers s reply (.invoke name arguments) (result.map .records)

/-- What an operation does on an exchange: its result, and the exchange behind its calls. -/
inductive Does (settings : Settings) (s : Schema) (exchange : Exchange) :
    Operation → Except Error Answer × Exchange → Prop where
  | refused {operation : Operation} {cause : Error}
      (h : operation.request? settings s = some (.error cause)) :
      Does settings s exchange operation (.error cause, exchange)
  | answered {operation : Operation} {call : Call} {result : Except Error Answer}
      (h : operation.request? settings s = some (.ok call))
      (hanswer : operation.Answers s exchange.replies.head? result) :
      Does settings s exchange operation (result, exchange.sent [call])
  | batchRefused {records : List Record} {cause : Error}
      (h : records.findSome? s.refusal? = some cause) :
      Does settings s exchange (.insertMany records) (.error cause, exchange)
  | batch {records : List Record} {commands : List BoundSql}
      {result : Except Error (List Record)} {last : Exchange}
      (hcommands :
        List.Forall₂ (fun record command => s.insert record = .ok command) records commands)
      (h : Session.StoresEach s commands exchange (result, last)) :
      Does settings s exchange (.insertMany records) (result.map .records, last)

end Operation

/-- A run of operations: each of them starts from the exchange that the ones before it leave. -/
inductive Conversation (settings : Settings) :
    Exchange → List (Schema × Operation) → List (Except Error Answer) → Exchange → Prop where
  | nil (exchange : Exchange) : Conversation settings exchange [] [] exchange
  | cons {exchange next last : Exchange} {s : Schema} {operation : Operation}
      {operations : List (Schema × Operation)} {result : Except Error Answer}
      {results : List (Except Error Answer)}
      (hfirst : operation.Does settings s exchange (result, next))
      (hrest : Conversation settings next operations results last) :
      Conversation settings exchange ((s, operation) :: operations) (result :: results) last

/-! ## Replies -/

theorem Schema.decodesAll_iff {s : Schema} {rows : List Row}
    {result : Except Error (List Record)} :
    s.DecodesAll rows result ↔ rows.mapM s.decode = result := by
  constructor
  · intro h
    cases h with
    | decoded h => exact mapM_of_forall₂ h
    | failed hrows hbefore hrow => exact mapM_eq_error_iff.mpr ⟨_, _, _, hrows, hbefore, hrow⟩
  · rintro rfl
    cases hdecode : rows.mapM s.decode with
    | ok records => exact .decoded (forall₂_of_mapM hdecode)
    | error cause =>
        rcases mapM_eq_error_iff.mp hdecode with ⟨before, row, after, hrows, hbefore, hrow⟩
        exact .failed hrows hbefore hrow

theorem Schema.DecodesAll.unique {s : Schema} {rows : List Row}
    {result result' : Except Error (List Record)} (h : s.DecodesAll rows result)
    (h' : s.DecodesAll rows result') : result = result' :=
  (decodesAll_iff.mp h).symm.trans (decodesAll_iff.mp h')

namespace Session

variable {α β : Type}

theorem run_map (f : α → β) (x : Session α) (exchange : Exchange) :
    (f <$> x).run exchange = ((x.run exchange).1.map f, (x.run exchange).2) := by
  rw [map_eq_pure_bind, run_bind_state]
  rcases x.run exchange with ⟨cause | a, last⟩
  · rfl
  · rfl

/-- An operation that begins with a command that cannot be built. -/
theorem run_refused {command : Except Error BoundSql} {cause : Error}
    (h : command = .error cause) (next : BoundSql → Session α) (exchange : Exchange) :
    (build command >>= next).run exchange = (.error cause, exchange) := by
  rw [run_bind_state, run_build, h]

/-- An operation that asks for rows. -/
theorem run_asked {command : Except Error BoundSql} {sql : BoundSql} (h : command = .ok sql)
    (next : List Row → Session α) (exchange : Exchange) :
    (build command >>= fun sql => query sql >>= next).run exchange =
      match rowsOf exchange.replies.head? with
      | .error cause => (.error cause, exchange.sent [.query sql])
      | .ok rows => (next rows).run (exchange.sent [.query sql]) := by
  rw [run_bind_state, run_build, h]
  change (query sql >>= next).run exchange = _
  rw [run_bind_state, run_query]
  cases rowsOf exchange.replies.head? <;> rfl

/-- An operation that asks for a number of affected rows. -/
theorem run_executed {command : Except Error BoundSql} {sql : BoundSql} (h : command = .ok sql)
    (exchange : Exchange) :
    (build command >>= execute).run exchange =
      (affectedOf exchange.replies.head?, exchange.sent [.execute sql]) := by
  rw [run_bind_state, run_build, h]
  exact run_execute sql exchange

end Session

/-! ## What an operation does -/

namespace Operation

variable {settings : Settings} {s : Schema} {exchange : Exchange} {operation : Operation}
  {α : Type} {answer : α → Answer} {command : Except Error BoundSql}

/-- An operation that asks for rows makes of them what it reads in them without a further call. -/
theorem does_asked {next : List Row → Session α}
    (hrequest : operation.request? settings s = some (command.map .query))
    (hrun : operation.run settings s =
      answer <$> (Session.build command >>= fun sql => Session.query sql >>= next))
    (hnext : ∀ rows, Reply.GivesRows exchange.replies.head? rows → ∃ result,
      (∀ later, (next rows).run later = (result, later)) ∧
        operation.Answers s exchange.replies.head? (result.map answer)) :
    operation.Does settings s exchange ((operation.run settings s).run exchange) := by
  rw [hrun, Session.run_map]
  cases hcommand : command with
  | error cause =>
      rw [hcommand] at hrequest
      rw [Session.run_refused rfl]
      exact .refused hrequest
  | ok sql =>
      rw [hcommand] at hrequest
      rw [Session.run_asked rfl]
      rcases Session.rowsOf_cases exchange.replies.head? with
        ⟨reason, hreply, hread⟩ | ⟨rows, hrows, hread⟩
      · rw [hread]
        exact .answered hrequest (.failed operation hreply)
      · rcases hnext rows hrows with ⟨result, hresult, hanswer⟩
        simp only [hread, hresult]
        exact .answered hrequest hanswer

/-- An operation that asks for a number of rows returns it. -/
theorem does_executed (hrequest : operation.request? settings s = some (command.map .execute))
    (hrun : operation.run settings s =
      Answer.affected <$> (Session.build command >>= Session.execute))
    (hnext : ∀ count, Reply.GivesCount exchange.replies.head? count →
      operation.Answers s exchange.replies.head? (.ok (.affected count))) :
    operation.Does settings s exchange ((operation.run settings s).run exchange) := by
  rw [hrun, Session.run_map]
  cases hcommand : command with
  | error cause =>
      rw [hcommand] at hrequest
      rw [Session.run_refused rfl]
      exact .refused hrequest
  | ok sql =>
      rw [hcommand] at hrequest
      rw [Session.run_executed rfl]
      rcases Session.affectedOf_cases exchange.replies.head? with
        ⟨reason, hreply, hread⟩ | ⟨count, hcount, hread⟩
      · rw [hread]
        exact .answered hrequest (.failed operation hreply)
      · rw [hread]
        exact .answered hrequest (hnext count hcount)

/-- A batch is refused as a whole, or its commands are sent one after the other. -/
theorem does_batch (settings : Settings) (s : Schema) (records : List Record)
    (exchange : Exchange) :
    (insertMany records).Does settings s exchange
      (((insertMany records).run settings s).run exchange) := by
  rw [run, Session.run_map]
  cases hrefusal : records.findSome? s.refusal? with
  | some cause =>
      rw [Session.run_insertMany_error hrefusal]
      exact .batchRefused hrefusal
  | none =>
      rcases (s.reports_insert_all records).exists_ok_iff.mpr hrefusal with ⟨commands, hcommands⟩
      rw [Session.run_insertMany_ok hcommands]
      exact .batch (forall₂_of_mapM hcommands) (Session.storesEach_run s commands exchange)

theorem does_run (settings : Settings) (s : Schema) (operation : Operation)
    (exchange : Exchange) :
    operation.Does settings s exchange ((operation.run settings s).run exchange) := by
  cases operation with
  | select predicate =>
      refine does_asked rfl rfl fun rows hrows => ?_
      cases rows with
      | nil => exact ⟨.ok none, fun later => rfl, .nothing hrows⟩
      | cons row rest =>
          refine ⟨(s.decode row).map some, fun later => ?_, ?_⟩
          · change ((some <$> Session.decode (s.decode row)).run later) = _
            rw [Session.run_map, Session.run_decode]
          · have hfound := @Answers.found s _ predicate row rest hrows
            cases hrow : s.decode row with
            | error cause =>
                rw [hrow] at hfound
                exact hfound
            | ok record =>
                rw [hrow] at hfound
                exact hfound
  | selectMany limit predicate =>
      refine does_asked rfl rfl fun rows hrows => ?_
      exact ⟨_, Session.run_decode _, .selected hrows (s.decodesAll_iff.mpr rfl)⟩
  | insert record =>
      refine does_asked rfl rfl fun rows hrows => ?_
      cases rows with
      | nil => exact ⟨_, fun later => rfl, .stored (.empty hrows)⟩
      | cons row rest => exact ⟨_, Session.run_decode _, .stored (.first hrows)⟩
  | insertMany records => exact does_batch settings s records exchange
  | update record predicate => exact does_executed rfl rfl fun _ hcount => .updated hcount
  | updateColumns columns predicate =>
      exact does_executed rfl rfl fun _ hcount => .columnsUpdated hcount
  | delete predicate => exact does_executed rfl rfl fun _ hcount => .deleted hcount
  | invoke name arguments =>
      refine does_asked rfl rfl fun rows hrows => ?_
      exact ⟨_, Session.run_decode _, .invoked hrows (s.decodesAll_iff.mpr rfl)⟩

/-! ## No other outcome -/

theorem Answers.of_failure {reason : String} {result : Except Error Answer}
    (h : operation.Answers s (some (.failure reason)) result) :
    result = .error (.executor reason) := by
  cases h with
  | failed operation hreply =>
      cases hreply
      rfl
  | nothing hrows => exact absurd hrows Reply.not_givesRows_failure
  | found hrows => exact absurd hrows Reply.not_givesRows_failure
  | selected hrows hread => exact absurd hrows Reply.not_givesRows_failure
  | stored hstores =>
      rw [hstores.unique (.failed rfl)]
      rfl
  | updated hcount => exact absurd hcount Reply.not_givesCount_failure
  | columnsUpdated hcount => exact absurd hcount Reply.not_givesCount_failure
  | deleted hcount => exact absurd hcount Reply.not_givesCount_failure
  | invoked hrows hread => exact absurd hrows Reply.not_givesRows_failure

/-- A reply is made one answer of. -/
theorem Answers.unique {reply : Option Reply} {result result' : Except Error Answer}
    (h : operation.Answers s reply result) (h' : operation.Answers s reply result') :
    result = result' := by
  by_cases hfailure : ∃ reason, reply = some (.failure reason)
  · rcases hfailure with ⟨reason, rfl⟩
    rw [h.of_failure, h'.of_failure]
  -- what is left is one rule for each operation, and two for a selection of one row
  cases h with
  | failed operation hreply => exact (hfailure ⟨_, hreply⟩).elim
  | nothing hrows =>
      cases h' with
      | failed operation hreply => exact (hfailure ⟨_, hreply⟩).elim
      | nothing hrows' => rfl
      | found hrows' => cases hrows.unique hrows'
  | found hrows =>
      cases h' with
      | failed operation hreply => exact (hfailure ⟨_, hreply⟩).elim
      | nothing hrows' => cases hrows.unique hrows'
      | found hrows' =>
          cases hrows.unique hrows'
          rfl
  | selected hrows hread =>
      cases h' with
      | failed operation hreply => exact (hfailure ⟨_, hreply⟩).elim
      | selected hrows' hread' =>
          cases hrows.unique hrows'
          rw [hread.unique hread']
  | stored hstores =>
      cases h' with
      | failed operation hreply => exact (hfailure ⟨_, hreply⟩).elim
      | stored hstores' => rw [hstores.unique hstores']
  | updated hcount =>
      cases h' with
      | failed operation hreply => exact (hfailure ⟨_, hreply⟩).elim
      | updated hcount' =>
          cases hcount.unique hcount'
          rfl
  | columnsUpdated hcount =>
      cases h' with
      | failed operation hreply => exact (hfailure ⟨_, hreply⟩).elim
      | columnsUpdated hcount' =>
          cases hcount.unique hcount'
          rfl
  | deleted hcount =>
      cases h' with
      | failed operation hreply => exact (hfailure ⟨_, hreply⟩).elim
      | deleted hcount' =>
          cases hcount.unique hcount'
          rfl
  | invoked hrows hread =>
      cases h' with
      | failed operation hreply => exact (hfailure ⟨_, hreply⟩).elim
      | invoked hrows' hread' =>
          cases hrows.unique hrows'
          rw [hread.unique hread']

/-- An operation does one thing: its rules exclude each other. -/
theorem Does.unique {outcome outcome' : Except Error Answer × Exchange}
    (h : operation.Does settings s exchange outcome)
    (h' : operation.Does settings s exchange outcome') : outcome = outcome' := by
  cases h with
  | refused hrequest =>
      cases h' with
      | refused hrequest' =>
          rw [hrequest] at hrequest'
          cases hrequest'
          rfl
      | answered hrequest' hanswer' =>
          rw [hrequest] at hrequest'
          cases hrequest'
      | batchRefused hrefusal' => cases hrequest
      | batch hcommands' hsent' => cases hrequest
  | answered hrequest hanswer =>
      cases h' with
      | refused hrequest' =>
          rw [hrequest] at hrequest'
          cases hrequest'
      | answered hrequest' hanswer' =>
          rw [hrequest] at hrequest'
          cases hrequest'
          rw [hanswer.unique hanswer']
      | batchRefused hrefusal' => cases hrequest
      | batch hcommands' hsent' => cases hrequest
  | @batchRefused records cause hrefusal =>
      cases h' with
      | refused hrequest' => cases hrequest'
      | answered hrequest' hanswer' => cases hrequest'
      | batchRefused hrefusal' =>
          rw [hrefusal] at hrefusal'
          cases hrefusal'
          rfl
      | batch hcommands' hsent' =>
          rw [Session.refusal?_eq_none hcommands'] at hrefusal
          cases hrefusal
  | batch hcommands hsent =>
      cases h' with
      | refused hrequest' => cases hrequest'
      | answered hrequest' hanswer' => cases hrequest'
      | batchRefused hrefusal' =>
          rw [Session.refusal?_eq_none hcommands] at hrefusal'
          cases hrefusal'
      | batch hcommands' hsent' =>
          have hsame := (mapM_of_forall₂ hcommands).symm.trans (mapM_of_forall₂ hcommands')
          cases hsame
          cases hsent.unique hsent'
          rfl

theorem does_iff_run {outcome : Except Error Answer × Exchange} :
    operation.Does settings s exchange outcome ↔
      (operation.run settings s).run exchange = outcome := by
  have hdoes := does_run settings s operation exchange
  constructor
  · exact hdoes.unique
  · rintro rfl
    exact hdoes

end Operation

/-! ## Whole runs -/

namespace Session

variable {settings : Settings} {operations : List (Schema × Operation)} {exchange last : Exchange}
  {results : List (Except Error Answer)}

theorem conversation_converse (settings : Settings) (operations : List (Schema × Operation))
    (exchange : Exchange) :
    Conversation settings exchange operations (converse settings operations exchange).1
      (converse settings operations exchange).2 := by
  induction operations generalizing exchange with
  | nil => exact .nil exchange
  | cons step rest ih =>
      rcases step with ⟨s, operation⟩
      exact .cons (operation.does_run settings s exchange) (ih _)

theorem converse_of_conversation
    (h : Conversation settings exchange operations results last) :
    converse settings operations exchange = (results, last) := by
  induction h with
  | nil exchange => rfl
  | cons hfirst hrest ih =>
      have hrun := Operation.does_iff_run.mp hfirst
      simp only [converse, hrun, ih]

/-- A run of operations on a script of replies is a conversation, and the only one. Steps that have
replies of their own are conversations of one operation each. -/
theorem converse_iff_conversation (settings : Settings) :
    (∀ (operations : List (Schema × Operation)) (exchange : Exchange)
        (results : List (Except Error Answer)) (last : Exchange),
      converse settings operations exchange = (results, last) ↔
        Conversation settings exchange operations results last) ∧
      ∀ steps : List Step,
        List.Forall₂ (fun step outcome => ∃ left, step.operation.Does settings step.schema
          ⟨[], step.replies⟩ (outcome.1, ⟨outcome.2, left⟩)) steps (runSteps settings steps) := by
  refine ⟨fun operations exchange results last => ⟨?_, converse_of_conversation⟩, fun steps => ?_⟩
  · intro h
    have hconversation := conversation_converse settings operations exchange
    rwa [h] at hconversation
  · rw [runSteps, List.forall₂_map_right_iff, List.forall₂_same]
    intro step hstep
    exact ⟨_, step.operation.does_run settings step.schema ⟨[], step.replies⟩⟩

/-- A selection finds the first row and does not mind the second, which is no task. Of many rows
each is a task, or the first that is not decides the error. A title that is too long is refused
without a call, so the next reply is that to the insertion behind it; it has no row. A call that
fails is not made again and does not end the run. -/
theorem converse_iff_conversation_tasks :
    ∃ one many few insertion deletion, tasks.selectTop 1 none (some 4) = .ok one ∧
      tasks.selectTop 25 none (some 4) = .ok many ∧ tasks.selectTop 2 none (some 4) = .ok few ∧
      tasks.insert [.int 0, .text "a"] = .ok insertion ∧ tasks.delete none (some 4) = .ok deletion ∧
      converse ⟨25, some 4, ""⟩
          [(tasks, .select none), (tasks, .selectMany none none),
            (tasks, .selectMany (some 2) none), (tasks, .insert [.int 0, .text "long"]),
            (tasks, .insert [.int 0, .text "a"]), (tasks, .delete none), (tasks, .delete none)]
          ⟨[], [.rows [taskRow 7 "a", ⟨[]⟩], .rows [taskRow 7 "a", taskRow 8 "b"],
            .rows [taskRow 7 "a", ⟨[("id", .int 8)]⟩, ⟨[]⟩], .rows [], .failure "reset",
            .affected 3]⟩ =
        ([.ok (.found (some [.int 7, .text "a"])),
            .ok (.records [[.int 7, .text "a"], [.int 8, .text "b"]]),
            .error (.missingColumn "title"), .error (.maxLength "task" "title" 3 4),
            .error (.emptyResult "task"), .error (.executor "reset"), .ok (.affected 3)],
          ⟨[.query one, .query many, .query few, .query insertion, .execute deletion,
            .execute deletion], []⟩) := by
  have hseven : tasks.decode (taskRow 7 "a") = .ok [.int 7, .text "a"] := rfl
  have height : tasks.decode (taskRow 8 "b") = .ok [.int 8, .text "b"] := rfl
  have hmany : tasks.DecodesAll [taskRow 7 "a", taskRow 8 "b"]
      (.ok [[.int 7, .text "a"], [.int 8, .text "b"]]) :=
    .decoded (.cons hseven (.cons height .nil))
  have hfew : tasks.DecodesAll [taskRow 7 "a", ⟨[("id", .int 8)]⟩, ⟨[]⟩]
      (.error (.missingColumn "title")) :=
    @Schema.DecodesAll.failed tasks _ [_] [_] ⟨[("id", .int 8)]⟩ _ rfl
      (List.forall_mem_singleton.mpr ⟨_, hseven⟩) rfl
  refine ⟨_, _, _, _, _, rfl, rfl, rfl, rfl, rfl, ?_⟩
  refine ((converse_iff_conversation ⟨25, some 4, ""⟩).1 _ _ _ _).mpr ?_
  refine .cons (.answered rfl (.found (.rows _))) ?_
  refine .cons (.answered rfl (.selected (.rows _) hmany)) ?_
  refine .cons (.answered rfl (.selected (.rows _) hfew)) ?_
  refine .cons (.refused rfl) ?_
  refine .cons (.answered rfl (.stored (.empty (.rows [])))) ?_
  refine .cons (.answered rfl (.failed _ rfl)) ?_
  refine .cons (.answered rfl (.deleted (.affected 3))) ?_
  exact .nil _

end Session

end EntitySql
