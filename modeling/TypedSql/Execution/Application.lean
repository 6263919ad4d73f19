import TypedSql.Execution.Execute
/-!
# Applications

An application holds databases, statements, transactions and connections, and acts on them by
their numbers. A run is a list of actions; properties of whole runs are stated about it.

## Main definitions

- `Action`: what an application can do.
- `Application`: what it holds, and the session that it acts in.
- `Application.act`: one action and its result.
- `Application.close`: the end, which discards the transactions and gives the connections up.
-/

namespace TypedSql

/-- What an application can do. Databases, statements, transactions and directly used connections
go by their numbers. -/
inductive Action where
  | setDefaultMode (mode : ParameterMode)
  | execute (statement database : Nat) (transaction? : Option Nat) (slots? : Option (List Value))
      (options : ExecuteOptions) (calling : Calling)
  | finish (transaction : Nat) (ending : Ending) (calling : Calling)
  | discard (transaction : Nat)
  | connect (connection database : Nat) (calling : Calling)
  | send (connection : Nat) (request : Request) (calling : Calling)
  | release (connection : Nat)

/-- The result of an action. -/
inductive ActionResult where
  | done
  | failed (e : ExecError)
  | outcome (o : Outcome)
  | answered (answer : ResultSet)
  /-- What the action names is not there any more. -/
  | missing

/-- What an application holds. -/
structure Application (σ κ : Type) where
  session : Session σ
  databases : List Database := []
  statements : List Executable := []
  /-- The transactions, without those that were discarded. -/
  transactions : List (Option (Transaction κ)) := []
  /-- The connections that are used directly. -/
  connections : List (Nat × Handle κ) := []
  /-- How values are sent where an execution does not say. -/
  defaultMode : ParameterMode := .bind

namespace ActionResult

/-- The result of a call without content. -/
def ofExcept : Except ExecError Unit → ActionResult
  | .ok () => done
  | .error e => failed e

end ActionResult

namespace Application

variable {σ κ α : Type}

/-- The transaction with a number. -/
def transaction? (app : Application σ κ) (i : Nat) : Option (Transaction κ) :=
  app.transactions[i]?.join

/-- The directly used connection with a number. -/
def connection? (app : Application σ κ) (i : Nat) : Option (Handle κ) := app.connections.lookup i

/-- Runs a computation in the session. -/
def run (app : Application σ κ) (f : SessionM σ α) : α × Application σ κ :=
  let (a, session) := f app.session
  (a, { app with session })

/-- Changes what lies behind the connections, as others may do between two actions. -/
def modifyBackend (app : Application σ κ) (f : σ → σ) : Application σ κ :=
  { app with session := { app.session with backend := f app.session.backend } }

/-- The application with a transaction in place of the one with a number. -/
def putTransaction (app : Application σ κ) (i : Nat) (t? : Option (Transaction κ)) :
    Application σ κ :=
  { app with transactions := app.transactions.set i t? }

/-- The application with a connection in place of the one with a number, or without it. -/
def putConnection (app : Application σ κ) (i : Nat) (h? : Option (Handle κ)) : Application σ κ :=
  { app with
    connections := app.connections.filter (fun entry => entry.1 ≠ i) ++ (h?.map ((i, ·))).toList }

/-- Executes a statement, within a transaction if one is named. -/
def execute (b : Backend σ κ) (app : Application σ κ) (statement database : Nat)
    (transaction? : Option Nat) (slots? : Option (List Value)) (options : ExecuteOptions)
    (calling : Calling) : ActionResult × Application σ κ :=
  match app.statements[statement]?, app.databases[database]?,
      transaction?.mapM app.transaction? with
  | some q, some db, some t? =>
    let ((result, t?, q), app) :=
      app.run (q.execute b calling db app.defaultMode options slots? t?)
    let app := { app with statements := app.statements.set statement q }
    let app := transaction?.elim app fun i => app.putTransaction i t?
    match result with
    | .ok o => (.outcome o, app)
    | .error e => (.failed e, app)
  | _, _, _ => (.missing, app)

/-- Opens a connection; the one it replaces is given up when it is there. -/
def connect (b : Backend σ κ) (app : Application σ κ) (connection database : Nat)
    (calling : Calling) : ActionResult × Application σ κ :=
  match app.databases[database]? with
  | none => (.missing, app)
  | some db =>
    let (result, app) := app.run (Session.connect b calling db)
    match result with
    | .error e => (.failed e, app)
    | .ok h =>
      let app := (app.connection? connection).elim app fun old =>
        (app.run (Session.release b old)).2
      (.done, app.putConnection connection (some h))

/-- Sends a request on a connection. -/
def send (b : Backend σ κ) (app : Application σ κ) (connection : Nat) (request : Request)
    (calling : Calling) : ActionResult × Application σ κ :=
  match app.connection? connection with
  | none => (.missing, app)
  | some h =>
    let ((answer, h), app) := app.run (Session.send b calling request h)
    let app := app.putConnection connection (some h)
    match answer with
    | .ok answer => (.answered answer, app)
    | .error e => (.failed e, app)

/-- Acts. To discard a transaction that is gone is no error. -/
def act (b : Backend σ κ) (app : Application σ κ) : Action → ActionResult × Application σ κ
  | .setDefaultMode mode => (.done, { app with defaultMode := mode })
  | .execute statement database transaction? slots? options calling =>
    app.execute b statement database transaction? slots? options calling
  | .finish i ending calling =>
    match app.transaction? i with
    | none => (.missing, app)
    | some t =>
      let ((result, t), app) := app.run (t.finish b calling ending)
      (.ofExcept result, app.putTransaction i (some t))
  | .discard i =>
    match app.transaction? i with
    | none => (.done, app)
    | some t =>
      let ((), app) := app.run (t.discard b)
      (.done, app.putTransaction i none)
  | .connect connection database calling => app.connect b connection database calling
  | .send connection request calling => app.send b connection request calling
  | .release i =>
    match app.connection? i with
    | none => (.missing, app)
    | some h =>
      let ((), app) := app.run (Session.release b h)
      (.done, app.putConnection i none)

/-- Ends the application: its transactions are discarded, then its connections given up. -/
def close (b : Backend σ κ) (app : Application σ κ) : Application σ κ :=
  let app := (List.range app.transactions.length).foldl
    (fun app i => (app.act b (.discard i)).2) app
  (app.connections.map Prod.fst).foldl (fun app i => (app.act b (.release i)).2) app

/-- The events since the last time they were taken. -/
def takeEvents (app : Application σ κ) : List Event × Application σ κ :=
  (app.session.events, { app with session := { app.session with events := [] } })

end Application

end TypedSql
