import TypedSql.Execution.Log
/-!
# Sessions

A backend answers calls over a state of its own. A session is a run of calls on it, and keeps
everything that happened in one sequence: the calls with their outcomes, what was logged, and what
was reported to observers. Properties of whole runs are statements about that sequence.

## Main definitions

- `Backend`: how connections are opened, used and released.
- `Database`: a named database with its observer.
- `Event`: what can happen.
- `Session`: the state of the backend and the events so far.
- `Session.connect`, `Session.send`, `Session.release`, `Session.notify`: what is done in one.

## Design notes

A backend cannot see the events, so that what it answers does not depend on who observes it. An
observer sees them all, and may fail on any report.
-/

namespace TypedSql

/-- What a call on a backend yields: its answer, the state after it, and what it logged. -/
structure Reply (σ α : Type) where
  answer : α
  state : σ
  log : List LogEvent := []

/-- A backend with states `σ` and open connections `κ`. -/
structure Backend (σ κ : Type) where
  /-- Opens a connection to the database with a number. -/
  connect : Calling → Nat → σ → Reply σ (Except ExecError κ)
  /-- Answers a request on a connection, which may change it. -/
  send : Calling → Request → κ → σ → Reply σ (Except ExecError ResultSet × κ)
  /-- Gives a connection up. -/
  release : κ → σ → Reply σ Unit

/-- What is reported before a command is sent. -/
structure QueryExecuting where
  database : String
  sql : String
  kind : StatementKind
  isolation? : Option IsolationLevel
  timeout? : Option Timeout
  debugName? : Option String

/-- What is reported after a command completes or fails. -/
structure QueryPerformed where
  executing : QueryExecuting
  rows? : Option Nat
  rowsAffected : Nat
  error? : Option ExecError

/-- A report to an observer. -/
inductive Report where
  | executing (e : QueryExecuting)
  | performed (p : QueryPerformed)

/-- The name of the hook that takes the report. -/
def Report.hook : Report → String
  | executing _ => "query_executing"
  | performed _ => "query_performed"

/-- A call on a connection or for one, with its outcome. Connections are numbered as they open. -/
inductive Call where
  | opened (connection : Nat)
  | refused
  | sent (connection : Nat) (request : Request) (succeeded : Bool)
  | released (connection : Nat)

/-- Something that happened in a session; calls and reports are those of the database with a
number. -/
inductive Event where
  | log (e : LogEvent)
  | call (database : Nat) (c : Call)
  | report (database : Nat) (r : Report)

namespace Event

/-- The entry of the log, if the event is one. -/
def log? : Event → Option LogEvent
  | log e => some e
  | _ => none

/-- The call with its database, if the event is one. -/
def call? : Event → Option (Nat × Call)
  | call database c => some (database, c)
  | _ => none

/-- The report with its database, if the event is one. -/
def report? : Event → Option (Nat × Report)
  | report database r => some (database, r)
  | _ => none

end Event

/-- Who is told of executions. It may panic on any report. -/
structure Observer where
  panics : List Event → Report → Bool

/-- A database that executions can name. -/
structure Database where
  /-- What tells databases apart, which may share a name. -/
  id : Nat
  name : String
  dialect : Dialect
  timeout? : Option Timeout := none
  observer? : Option Observer := none

/-- Whether two handles name the same database. -/
def Database.sameAs (x y : Database) : Bool := x.id == y.id

/-- An open connection with the database it belongs to and its number. -/
structure Handle (κ : Type) where
  database : Nat
  number : Nat
  connection : κ

/-- A run of calls on a backend. -/
structure Session (σ : Type) where
  backend : σ
  /-- The number of connections opened so far. -/
  opened : Nat := 0
  events : List Event := []

/-- A computation within a session. -/
abbrev SessionM (σ : Type) := StateM (Session σ)

namespace Session

variable {σ κ α : Type}

/-- Adds an event. -/
def record (e : Event) : SessionM σ Unit :=
  modify fun s => { s with events := s.events ++ [e] }

/-- Reports to the log. -/
def log (e : LogEvent) : SessionM σ Unit := record (.log e)

/-- Calls the backend. -/
def perform (call : σ → Reply σ α) : SessionM σ α := fun s =>
  let r := call s.backend
  (r.answer, { s with backend := r.state, events := s.events ++ r.log.map .log })

/-- Opens a connection. -/
def connect (b : Backend σ κ) (calling : Calling) (db : Database) :
    SessionM σ (Except ExecError (Handle κ)) := do
  match ← perform (b.connect calling db.id) with
  | .error e =>
    record (.call db.id .refused)
    return .error e
  | .ok connection =>
    let number := (← get).opened
    modify fun s => { s with opened := number + 1 }
    record (.call db.id (.opened number))
    return .ok ⟨db.id, number, connection⟩

/-- Sends a request on a connection. -/
def send (b : Backend σ κ) (calling : Calling) (request : Request) (h : Handle κ) :
    SessionM σ (Except ExecError ResultSet × Handle κ) := do
  let (answer, connection) ← perform (b.send calling request h.connection)
  record (.call h.database (.sent h.number request answer.isOk))
  return (answer, { h with connection })

/-- Gives a connection up. -/
def release (b : Backend σ κ) (h : Handle κ) : SessionM σ Unit := do
  perform (b.release h.connection)
  record (.call h.database (.released h.number))

/-- Sends a request on a connection of its own. -/
def sendAlone (b : Backend σ κ) (calling : Calling) (db : Database) (request : Request) :
    SessionM σ (Except ExecError ResultSet) := do
  match ← connect b calling db with
  | .error e => return .error e
  | .ok h =>
    let (answer, h) ← send b calling request h
    release b h
    return answer

/-- Tells the observer of a database; that it panics is only logged. -/
def notify (db : Database) (r : Report) : SessionM σ Unit := do
  match db.observer? with
  | none => return ()
  | some observer =>
    let panicked := observer.panics (← get).events r
    record (.report db.id r)
    if panicked then log (.hookPanicked r.hook)

end Session

end TypedSql
