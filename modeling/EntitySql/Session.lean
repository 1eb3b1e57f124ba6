import EntitySql.Command
import EntitySql.Settings
/-!
# Sessions

A session builds commands, sends them to a database and decodes what comes back. The database is
its side of the exchange: a script of replies, one for each call. Every call is recorded, so what a
session sends is part of its result.
-/

namespace EntitySql

/-- What the database answers to a call. -/
inductive Reply where
  | rows (rows : List Row)
  | affected (count : Nat)
  | failure (reason : String)

/-- A call of the database: for rows, or for the number of affected rows. -/
inductive Call where
  | query (command : BoundSql)
  | execute (command : BoundSql)

/-- The calls made so far, in order, and the replies still to come. -/
structure Exchange where
  calls : List Call
  replies : List Reply

/-- A step of a session: it gives a result or fails, and makes calls in either case. -/
abbrev Session (α : Type) := ExceptT Error (StateM Exchange) α

namespace Session

/-- Fails with the error of a command that cannot be built, before any call. -/
def build (command : Except Error BoundSql) : Session BoundSql :=
  match command with
  | .ok sql => pure sql
  | .error e => throw e

/-- Decodes without a call. -/
def decode {α : Type} (result : Except Error α) : Session α :=
  match result with
  | .ok a => pure a
  | .error e => throw e

/-- The rows of a reply. A reply of another kind has none. -/
def rowsOf : Option Reply → Except Error (List Row)
  | some (.rows rows) => .ok rows
  | some (.failure reason) => .error (.executor reason)
  | _ => .ok []

/-- The number of affected rows of a reply. In a reply of another kind it is zero. -/
def affectedOf : Option Reply → Except Error Nat
  | some (.affected count) => .ok count
  | some (.failure reason) => .error (.executor reason)
  | _ => .ok 0

/-- Makes one call and takes one reply. -/
def call {α : Type} (request : Call) (use : Option Reply → Except Error α) : Session α :=
  fun exchange => (use exchange.replies.head?, ⟨exchange.calls ++ [request], exchange.replies.tail⟩)

/-- Runs a command that returns rows. -/
def query (command : BoundSql) : Session (List Row) := call (.query command) rowsOf

/-- Runs a command that returns the number of affected rows. -/
def execute (command : BoundSql) : Session Nat := call (.execute command) affectedOf

/-! ## Operations -/

/-- The first row that matches. -/
def select (settings : Settings) (s : Schema) (predicate : Option Predicate) :
    Session (Option Record) := do
  let command ← build (s.selectTop 1 predicate settings.maxDepth)
  let rows ← query command
  match rows with
  | [] => return none
  | row :: _ => return some (← decode (s.decode row))

/-- The rows that match, up to a limit or else to the one of the settings. -/
def selectMany (settings : Settings) (s : Schema) (limit : Option Nat)
    (predicate : Option Predicate) : Session (List Record) := do
  let command ←
    build (s.selectTop (limit.getD settings.selectLimit) predicate settings.maxDepth)
  let rows ← query command
  decode (rows.mapM s.decode)

/-- Runs an insertion and decodes the row as it is stored. -/
def store (s : Schema) (command : BoundSql) : Session Record := do
  let rows ← query command
  match rows with
  | [] => throw (.emptyResult s.table)
  | row :: _ => decode (s.decode row)

/-- Inserts a record and returns it as it is stored. -/
def insert (s : Schema) (record : Record) : Session Record := do
  let command ← build (s.insert record)
  store s command

/-- Inserts records one by one, after all their commands have been built. -/
def insertMany (s : Schema) (records : List Record) : Session (List Record) := do
  -- a record that does not fit stops the batch before any row is stored
  let commands ← decode (records.mapM s.insert)
  commands.mapM (store s)

/-- Writes a record to the rows that match. -/
def update (settings : Settings) (s : Schema) (record : Record) (predicate : Option Predicate) :
    Session Nat := do
  let command ← build (s.update record predicate settings.maxDepth)
  execute command

/-- Writes named columns to the rows that match. -/
def updateColumns (settings : Settings) (s : Schema) (columns : List (String × Value))
    (predicate : Option Predicate) : Session Nat := do
  let command ← build (s.updateColumns columns predicate settings.maxDepth)
  execute command

/-- Deletes the rows that match. -/
def delete (settings : Settings) (s : Schema) (predicate : Option Predicate) : Session Nat := do
  let command ← build (s.delete predicate settings.maxDepth)
  execute command

/-- Calls a stored procedure and decodes its rows. -/
def invoke (s : Schema) (name : String) (arguments : List (String × Value)) :
    Session (List Record) := do
  let command ← build (storedProcedure name arguments)
  let rows ← query command
  decode (rows.mapM s.decode)

end Session

/-! ## Runs -/

/-- An operation of a session. -/
inductive Operation where
  | select (predicate : Option Predicate)
  | selectMany (limit : Option Nat) (predicate : Option Predicate)
  | insert (record : Record)
  | insertMany (records : List Record)
  | update (record : Record) (predicate : Option Predicate)
  | updateColumns (columns : List (String × Value)) (predicate : Option Predicate)
  | delete (predicate : Option Predicate)
  | invoke (name : String) (arguments : List (String × Value))

/-- What an operation returns. -/
inductive Answer where
  | found (record : Option Record)
  | stored (record : Record)
  | records (records : List Record)
  | affected (count : Nat)

/-- Runs an operation on the entities of a schema. -/
def Operation.run (settings : Settings) (s : Schema) : Operation → Session Answer
  | select predicate => Answer.found <$> Session.select settings s predicate
  | selectMany limit predicate => Answer.records <$> Session.selectMany settings s limit predicate
  | insert record => Answer.stored <$> Session.insert s record
  | insertMany records => Answer.records <$> Session.insertMany s records
  | update record predicate => Answer.affected <$> Session.update settings s record predicate
  | updateColumns columns predicate =>
    Answer.affected <$> Session.updateColumns settings s columns predicate
  | delete predicate => Answer.affected <$> Session.delete settings s predicate
  | invoke name arguments => Answer.records <$> Session.invoke s name arguments

/-- An operation with the replies that the database has for it; replies left over are lost. -/
structure Step where
  schema : Schema
  operation : Operation
  replies : List Reply

/-- The result of a step and the calls that it made. -/
def Step.run (settings : Settings) (step : Step) : Except Error Answer × List Call :=
  let (result, exchange) := (step.operation.run settings step.schema).run ⟨[], step.replies⟩
  (result, exchange.calls)

/-- The results of a run of steps, each with its calls. -/
def runSteps (settings : Settings) (steps : List Step) : List (Except Error Answer × List Call) :=
  steps.map (·.run settings)

end EntitySql
