import EntitySql.Proofs.Checked
import EntitySql.Session

/-! # Runs of session steps

The steps that operations are made of, as they run: building a command and decoding make no call,
and a call takes one reply off the script. `Exchange.sent` is the exchange behind a list of calls;
every run below ends in one.

What a reply gives to a call is told by its kind: `Reply.GivesRows` to a call for rows, and
`Reply.GivesCount` to a call for a number of affected rows.
-/

namespace EntitySql

/-! ## Replies -/

/-- The rows that a reply gives to a call for rows. A reply of another kind, or none, gives no rows,
and a failure does not give any list of them. -/
inductive Reply.GivesRows : Option Reply → List Row → Prop where
  | rows (rows : List Row) : GivesRows (some (.rows rows)) rows
  | affected (count : Nat) : GivesRows (some (.affected count)) []
  | missing : GivesRows none []

/-- The number that a reply gives to a call for affected rows. A reply of another kind, or none,
gives zero, and a failure does not give any number. -/
inductive Reply.GivesCount : Option Reply → Nat → Prop where
  | affected (count : Nat) : GivesCount (some (.affected count)) count
  | rows (rows : List Row) : GivesCount (some (.rows rows)) 0
  | missing : GivesCount none 0

namespace Reply

variable {reply : Option Reply}

theorem not_givesRows_failure {reason : String} {rows : List Row} :
    ¬ GivesRows (some (.failure reason)) rows := by
  rintro ⟨⟩

theorem not_givesCount_failure {reason : String} {count : Nat} :
    ¬ GivesCount (some (.failure reason)) count := by
  rintro ⟨⟩

/-- A reply gives one list of rows. -/
theorem GivesRows.unique {rows rows' : List Row} (h : GivesRows reply rows)
    (h' : GivesRows reply rows') : rows = rows' := by
  cases h <;> cases h' <;> rfl

/-- A reply gives one number. -/
theorem GivesCount.unique {count count' : Nat} (h : GivesCount reply count)
    (h' : GivesCount reply count') : count = count' := by
  cases h <;> cases h' <;> rfl

end Reply

/-! ## Calls -/

/-- The exchange behind more calls, each of which has taken one reply. -/
def Exchange.sent (exchange : Exchange) (calls : List Call) : Exchange :=
  ⟨exchange.calls ++ calls, exchange.replies.drop calls.length⟩

@[simp] theorem Exchange.sent_nil (exchange : Exchange) : exchange.sent [] = exchange := by
  simp [sent]

@[simp] theorem Exchange.sent_sent (exchange : Exchange) (calls more : List Call) :
    (exchange.sent calls).sent more = exchange.sent (calls ++ more) := by
  simp [sent]

/-- The replies that a call has not taken begin one position later. -/
theorem Exchange.replies_sent_singleton (exchange : Exchange) (call : Call) (k : Nat) :
    (exchange.sent [call]).replies[k]? = exchange.replies[k + 1]? := by
  simp [sent]

namespace Session

variable {α : Type}

theorem run_build (command : Except Error BoundSql) (exchange : Exchange) :
    (build command).run exchange = (command, exchange) := by
  cases command <;> rfl

theorem run_decode (result : Except Error α) (exchange : Exchange) :
    (decode result).run exchange = (result, exchange) := by
  cases result <;> rfl

theorem run_query (command : BoundSql) (exchange : Exchange) :
    (query command).run exchange =
      (rowsOf exchange.replies.head?, exchange.sent [.query command]) := by
  rw [Exchange.sent, List.length_singleton, List.drop_one]
  rfl

theorem run_execute (command : BoundSql) (exchange : Exchange) :
    (execute command).run exchange =
      (affectedOf exchange.replies.head?, exchange.sent [.execute command]) := by
  rw [Exchange.sent, List.length_singleton, List.drop_one]
  rfl

/-- A call for rows takes what its reply gives, and fails where the reply is a failure. -/
theorem rowsOf_cases (reply : Option Reply) :
    (∃ reason, reply = some (.failure reason) ∧ rowsOf reply = .error (.executor reason)) ∨
      ∃ rows, Reply.GivesRows reply rows ∧ rowsOf reply = .ok rows := by
  match reply with
  | some (.failure reason) => exact Or.inl ⟨reason, rfl, rfl⟩
  | some (.rows rows) => exact Or.inr ⟨rows, .rows rows, rfl⟩
  | some (.affected count) => exact Or.inr ⟨[], .affected count, rfl⟩
  | none => exact Or.inr ⟨[], .missing, rfl⟩

/-- A call for affected rows takes what its reply gives, and fails where the reply is a failure. -/
theorem affectedOf_cases (reply : Option Reply) :
    (∃ reason, reply = some (.failure reason) ∧ affectedOf reply = .error (.executor reason)) ∨
      ∃ count, Reply.GivesCount reply count ∧ affectedOf reply = .ok count := by
  match reply with
  | some (.failure reason) => exact Or.inl ⟨reason, rfl, rfl⟩
  | some (.affected count) => exact Or.inr ⟨count, .affected count, rfl⟩
  | some (.rows rows) => exact Or.inr ⟨0, .rows rows, rfl⟩
  | none => exact Or.inr ⟨0, .missing, rfl⟩

theorem rowsOf_eq_ok {reply : Option Reply} {rows : List Row} (h : Reply.GivesRows reply rows) :
    rowsOf reply = .ok rows := by
  cases h with
  | rows rows => rfl
  | affected count => rfl
  | missing => rfl

end Session

end EntitySql
