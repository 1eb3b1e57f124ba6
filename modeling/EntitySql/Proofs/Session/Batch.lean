import EntitySql.Proofs.Session
import EntitySql.Proofs.Validation

/-! # Inserting many records

A batch is checked as a whole before anything is sent: the first record that does not fit fails it
without a call. A batch that fits is the same as inserting its records one by one, up to the first
insertion that fails: whatever the replies are, the calls are those of the records up to there.

Main statement: `insertMany_checks_all_then_inserts_each`.
-/

namespace EntitySql.Session

/-- What an insertion makes of the reply to its call: the first row is the record as it is stored.
-/
inductive Stores (s : Schema) (reply : Option Reply) : Except Error Record → Prop where
  | failed {reason : String} (h : reply = some (.failure reason)) :
      Stores s reply (.error (.executor reason))
  | empty (h : Reply.GivesRows reply []) : Stores s reply (.error (.emptyResult s.table))
  | first {row : Row} {rest : List Row} (h : Reply.GivesRows reply (row :: rest)) :
      Stores s reply (s.decode row)

/-- The outcome of sending insertions one after the other: the records that they store, or the
first of them that fails, and the exchange behind the last call. -/
inductive StoresEach (s : Schema) (commands : List BoundSql) (exchange : Exchange) :
    Except Error (List Record) × Exchange → Prop where
  | stored {records : List Record} (hlength : records.length = commands.length)
      (hstored : ∀ (k : Nat) (record : Record), records[k]? = some record →
        Stores s exchange.replies[k]? (.ok record)) :
      StoresEach s commands exchange (.ok records, exchange.sent (commands.map .query))
  | stopped {k : Nat} {cause : Error} (hk : k < commands.length)
      (hbefore : ∀ j < k, ∃ record, Stores s exchange.replies[j]? (.ok record))
      (hstop : Stores s exchange.replies[k]? (.error cause)) :
      StoresEach s commands exchange
        (.error cause, exchange.sent ((commands.take (k + 1)).map .query))

/-! ## One insertion -/

theorem exists_stores (s : Schema) (reply : Option Reply) : ∃ result, Stores s reply result := by
  rcases rowsOf_cases reply with ⟨reason, hreply, -⟩ | ⟨rows, hrows, -⟩
  · exact ⟨_, .failed hreply⟩
  · cases rows with
    | nil => exact ⟨_, .empty hrows⟩
    | cons row rest => exact ⟨_, .first hrows⟩

/-- An insertion that has been built makes one call. -/
theorem run_store {s : Schema} {exchange : Exchange} {result : Except Error Record}
    (h : Stores s exchange.replies.head? result) (command : BoundSql) :
    (store s command).run exchange = (result, exchange.sent [.query command]) := by
  rw [store, run_bind_state, run_query]
  cases h with
  | failed hreply =>
      rw [hreply]
      rfl
  | empty hrows =>
      rw [rowsOf_eq_ok hrows]
      rfl
  | first hrows =>
      rw [rowsOf_eq_ok hrows]
      exact run_decode _ _

/-- A reply is read in one way only. -/
theorem Stores.unique {s : Schema} {reply : Option Reply} {result result' : Except Error Record}
    (h : Stores s reply result) (h' : Stores s reply result') : result = result' := by
  cases h with
  | failed hreply =>
      rw [hreply] at h'
      cases h' with
      | failed hreply' =>
          cases hreply'
          rfl
      | empty hrows' => exact absurd hrows' Reply.not_givesRows_failure
      | first hrows' => exact absurd hrows' Reply.not_givesRows_failure
  | empty hrows =>
      cases h' with
      | failed hreply' =>
          rw [hreply'] at hrows
          exact absurd hrows Reply.not_givesRows_failure
      | empty hrows' => rfl
      | first hrows' => cases hrows.unique hrows'
  | first hrows =>
      cases h' with
      | failed hreply' =>
          rw [hreply'] at hrows
          exact absurd hrows Reply.not_givesRows_failure
      | empty hrows' => cases hrows.unique hrows'
      | first hrows' =>
          cases hrows.unique hrows'
          rfl

/-- Inserting a record that can be written is sending its command. -/
theorem insert_eq_store {s : Schema} {record : Record} {command : BoundSql}
    (h : s.insert record = .ok command) : insert s record = store s command := by
  rw [insert, h]
  rfl

/-! ## One after the other -/

theorem StoresEach.nil (s : Schema) (exchange : Exchange) :
    StoresEach s [] exchange (.ok [], exchange) := by
  have hnone := @StoresEach.stored s [] exchange [] rfl (by simp)
  rwa [List.map_nil, Exchange.sent_nil] at hnone

/-- Nothing is sent behind a first insertion that fails. -/
theorem StoresEach.stop {s : Schema} {exchange : Exchange} {cause : Error}
    (h : Stores s exchange.replies[0]? (.error cause)) (command : BoundSql)
    (commands : List BoundSql) :
    StoresEach s (command :: commands) exchange (.error cause, exchange.sent [.query command]) :=
  .stopped (Nat.zero_lt_succ _) (fun j hj => absurd hj (Nat.not_lt_zero j)) h

/-- A first insertion that stores its record is followed by the others, on the replies behind its
own. -/
theorem StoresEach.cons {s : Schema} {exchange last : Exchange} {record : Record}
    {command : BoundSql} {commands : List BoundSql} {result : Except Error (List Record)}
    (hfirst : Stores s exchange.replies[0]? (.ok record))
    (hrest : StoresEach s commands (exchange.sent [.query command]) (result, last)) :
    StoresEach s (command :: commands) exchange (result.map (record :: ·), last) := by
  cases hrest with
  | @stored records hlength hstored =>
      rw [Exchange.sent_sent]
      refine @StoresEach.stored s (command :: commands) exchange (record :: records)
        (congrArg Nat.succ hlength) fun k stored hk => ?_
      cases k with
      | zero =>
          obtain rfl : record = stored := by simpa using hk
          exact hfirst
      | succ k =>
          have hlater := hstored k stored (by simpa using hk)
          rwa [Exchange.replies_sent_singleton] at hlater
  | @stopped k cause hk hbefore hstop =>
      rw [Exchange.replies_sent_singleton] at hstop
      rw [Exchange.sent_sent]
      refine @StoresEach.stopped s (command :: commands) exchange (k + 1) cause
        (Nat.succ_lt_succ hk) (fun j hj => ?_) hstop
      cases j with
      | zero => exact ⟨record, hfirst⟩
      | succ j =>
          have hlater := hbefore j (Nat.lt_of_succ_lt_succ hj)
          rwa [Exchange.replies_sent_singleton] at hlater

theorem storesEach_run (s : Schema) (commands : List BoundSql) (exchange : Exchange) :
    StoresEach s commands exchange ((commands.mapM (store s)).run exchange) := by
  induction commands generalizing exchange with
  | nil => exact .nil s exchange
  | cons command commands ih =>
      rcases exists_stores s exchange.replies.head? with ⟨result, hfirst⟩
      rw [List.mapM_cons, run_bind_state, run_store hfirst command]
      rw [List.head?_eq_getElem?] at hfirst
      cases result with
      | error cause => exact .stop hfirst command commands
      | ok record =>
          -- the rest is sent on the exchange behind the first call
          have hrest := ih (exchange.sent [.query command])
          change StoresEach s (command :: commands) exchange
            ((commands.mapM (store s) >>= fun records => pure (record :: records)).run
              (exchange.sent [.query command]))
          rw [run_bind_state]
          generalize (commands.mapM (store s)).run (exchange.sent [.query command]) = outcome
            at hrest ⊢
          rcases outcome with ⟨cause | records, last⟩
          · exact hrest.cons hfirst
          · exact hrest.cons hfirst

/-- The first insertion that fails has one position, and the records stored before it are those that
the replies give. -/
theorem StoresEach.unique {s : Schema} {commands : List BoundSql} {exchange : Exchange}
    {outcome outcome' : Except Error (List Record) × Exchange}
    (h : StoresEach s commands exchange outcome) (h' : StoresEach s commands exchange outcome') :
    outcome = outcome' := by
  -- a position at which a record is stored is not one at which an insertion fails
  have hclash : ∀ {k : Nat} {record : Record} {cause : Error},
      Stores s exchange.replies[k]? (.ok record) →
      Stores s exchange.replies[k]? (.error cause) → False := by
    intro k record cause hok herror
    cases hok.unique herror
  cases h with
  | @stored records hlength hstored =>
      cases h' with
      | @stored records' hlength' hstored' =>
          have hsame : records = records' := by
            apply List.ext_getElem (hlength.trans hlength'.symm)
            intro k hk hk'
            have hfirst := hstored k records[k] (List.getElem?_eq_getElem hk)
            have hsecond := hstored' k records'[k] (List.getElem?_eq_getElem hk')
            exact Except.ok.inj (hfirst.unique hsecond)
          rw [hsame]
      | @stopped k cause hk hbefore hstop =>
          have hk' : k < records.length := by rwa [hlength]
          exact (hclash (hstored k records[k] (List.getElem?_eq_getElem hk')) hstop).elim
  | @stopped k cause hk hbefore hstop =>
      cases h' with
      | @stored records hlength hstored =>
          have hk' : k < records.length := by rwa [hlength]
          exact (hclash (hstored k records[k] (List.getElem?_eq_getElem hk')) hstop).elim
      | @stopped k' cause' hk' hbefore' hstop' =>
          rcases lt_trichotomy k k' with hlt | rfl | hlt
          · rcases hbefore' k hlt with ⟨record, hrecord⟩
            exact (hclash hrecord hstop).elim
          · cases hstop.unique hstop'
            rfl
          · rcases hbefore k' hlt with ⟨record, hrecord⟩
            exact (hclash hrecord hstop').elim

/-- Inserting records that can be written is sending their commands. -/
theorem mapM_insert {s : Schema} {records : List Record} {commands : List BoundSql}
    (h : List.Forall₂ (fun record command => s.insert record = .ok command) records commands) :
    records.mapM (insert s) = commands.mapM (store s) := by
  induction h with
  | nil => rfl
  | @cons record command records commands hinsert hrest ih =>
      rw [List.mapM_cons, List.mapM_cons, insert_eq_store hinsert, ih]

/-! ## Batches -/

theorem run_insertMany_error {s : Schema} {records : List Record} {cause : Error}
    (h : records.findSome? s.refusal? = some cause) (exchange : Exchange) :
    (insertMany s records).run exchange = (.error cause, exchange) := by
  have herror := ((s.reports_insert_all records).eq_error_iff cause).mpr h
  rw [insertMany, run_bind_state, run_decode, herror]

/-- Records of which every insertion can be built are not refused. -/
theorem refusal?_eq_none {s : Schema} {records : List Record} {commands : List BoundSql}
    (h : List.Forall₂ (fun record command => s.insert record = .ok command) records commands) :
    records.findSome? s.refusal? = none :=
  (s.reports_insert_all records).exists_ok_iff.mp ⟨commands, mapM_of_forall₂ h⟩

/-- A batch in which every record can be written is the sequence of its commands. -/
theorem run_insertMany_ok {s : Schema} {records : List Record} {commands : List BoundSql}
    (h : records.mapM s.insert = .ok commands) (exchange : Exchange) :
    (insertMany s records).run exchange = (commands.mapM (store s)).run exchange := by
  rw [insertMany, run_bind_state, run_decode, h]

/-- A batch with a record that does not fit fails with the error of the first such record and makes
no call. Any other batch does what inserting its records from left to right does: it stores all of
them in order, or makes the calls up to the first that fails and returns its error. -/
theorem insertMany_checks_all_then_inserts_each (s : Schema) (records : List Record)
    (exchange : Exchange) :
    match records.findSome? s.refusal? with
    | some cause => (insertMany s records).run exchange = (.error cause, exchange)
    | none =>
      (insertMany s records).run exchange = (records.mapM (insert s)).run exchange ∧
      ∃ commands,
        List.Forall₂ (fun record command => s.insert record = .ok command) records commands ∧
        StoresEach s commands exchange ((insertMany s records).run exchange) := by
  cases hrefusal : records.findSome? s.refusal? with
  | some cause => exact run_insertMany_error hrefusal exchange
  | none =>
      rcases (s.reports_insert_all records).exists_ok_iff.mpr hrefusal with ⟨commands, hcommands⟩
      have hinsert := forall₂_of_mapM hcommands
      rw [run_insertMany_ok hcommands, mapM_insert hinsert]
      exact ⟨rfl, commands, hinsert, storesEach_run s commands exchange⟩

/-- Tasks have a number, which the database gives them, and a short title. -/
def tasks : Schema where
  table := "task"
  fields :=
    [⟨"id", .plain (.integer .i64), some ⟨"id", "id", .integer, false, true, none⟩⟩,
      ⟨"title", .plain .string, some ⟨"title", "title", .text, false, false, some 3⟩⟩]
  handleType := "TaskFields"
  isPublic := true

/-- A task as a row. -/
def taskRow (id : Int64) (title : String) : Row := ⟨[("id", .int id), ("title", .text title)]⟩

/-- Two tasks are stored under the numbers that the first row of each reply has. An empty reply ends
a batch behind the call that it answers, and a title that is too long ends it before any call. -/
theorem insertMany_checks_all_then_inserts_each_tasks :
    (∃ first second, tasks.insert [.int 0, .text "a"] = .ok first ∧
      tasks.insert [.int 0, .text "b"] = .ok second ∧
      (insertMany tasks [[.int 0, .text "a"], [.int 0, .text "b"]]).run
          ⟨[], [.rows [taskRow 7 "a", taskRow 9 "x"], .rows [taskRow 8 "b"]]⟩ =
        (.ok [[.int 7, .text "a"], [.int 8, .text "b"]], ⟨[.query first, .query second], []⟩)) ∧
    (∃ first second, tasks.insert [.int 0, .text "a"] = .ok first ∧
      tasks.insert [.int 0, .text "b"] = .ok second ∧
      (insertMany tasks [[.int 0, .text "a"], [.int 0, .text "b"], [.int 0, .text "c"]]).run
          ⟨[], [.rows [taskRow 7 "a"], .rows [], .rows [taskRow 8 "c"]]⟩ =
        (.error (.emptyResult "task"),
          ⟨[.query first, .query second], [.rows [taskRow 8 "c"]]⟩)) ∧
    (insertMany tasks [[.int 0, .text "a"], [.int 0, .text "long"]]).run
        ⟨[], [.rows [taskRow 7 "a"]]⟩ =
      (.error (.maxLength "task" "title" 3 4), ⟨[], [.rows [taskRow 7 "a"]]⟩) := by
  have hseven : tasks.decode (taskRow 7 "a") = .ok [.int 7, .text "a"] := rfl
  have height : tasks.decode (taskRow 8 "b") = .ok [.int 8, .text "b"] := rfl
  refine ⟨?_, ?_, ?_⟩
  · have hbatch := insertMany_checks_all_then_inserts_each tasks
      [[.int 0, .text "a"], [.int 0, .text "b"]]
      ⟨[], [.rows [taskRow 7 "a", taskRow 9 "x"], .rows [taskRow 8 "b"]]⟩
    rcases hbatch with ⟨-, commands, hcommands, hstores⟩
    rcases hcommands with _ | ⟨hfirst, _ | ⟨hsecond, ⟨⟩⟩⟩
    refine ⟨_, _, hfirst, hsecond, hstores.unique ?_⟩
    have hstored := @Stores.first tasks _ _ _ (.rows [taskRow 7 "a", taskRow 9 "x"])
    have hstored' := @Stores.first tasks _ _ _ (.rows [taskRow 8 "b"])
    rw [hseven] at hstored
    rw [height] at hstored'
    exact .cons hstored (.cons hstored' (.nil tasks _))
  · have hbatch := insertMany_checks_all_then_inserts_each tasks
      [[.int 0, .text "a"], [.int 0, .text "b"], [.int 0, .text "c"]]
      ⟨[], [.rows [taskRow 7 "a"], .rows [], .rows [taskRow 8 "c"]]⟩
    rcases hbatch with ⟨-, commands, hcommands, hstores⟩
    rcases hcommands with _ | ⟨hfirst, _ | ⟨hsecond, hrest⟩⟩
    refine ⟨_, _, hfirst, hsecond, hstores.unique ?_⟩
    have hstored := @Stores.first tasks _ _ _ (.rows [taskRow 7 "a"])
    have hempty := @Stores.empty tasks _ (.rows [])
    rw [hseven] at hstored
    exact .cons hstored (.stop hempty _ _)
  · exact insertMany_checks_all_then_inserts_each tasks
      [[.int 0, .text "a"], [.int 0, .text "long"]] ⟨[], [.rows [taskRow 7 "a"]]⟩

end EntitySql.Session
