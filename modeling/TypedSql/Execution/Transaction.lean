import TypedSql.Execution.Session
/-!
# Transactions

A transaction opens its connection and begins on first use, with the database that the use names.
All later uses must name the same database. It ends with the first attempt to commit it or to
roll it back, whether that succeeds or not. One that is given up while bound is discarded.

## Main definitions

- `Transaction`: an isolation level and how far the transaction has come.
- `Transaction.send`: a request within the transaction.
- `Transaction.finish`: commits or rolls back.
- `Transaction.discard`: gives the transaction up.
-/

namespace TypedSql

/-- How far a transaction has come. -/
inductive TransactionState (κ : Type) where
  | unbound
  | bound (database : Database) (handle : Handle κ)
  | completed

/-- The name of the state in diagnostics. -/
def TransactionState.name {κ : Type} : TransactionState κ → String
  | unbound => "unbound"
  | bound _ _ => "open"
  | completed => "completed"

/-- Work that takes effect as a whole. -/
structure Transaction (κ : Type) where
  isolation : IsolationLevel := .readCommitted
  state : TransactionState κ := .unbound

/-- How a transaction is brought to its end. -/
inductive Ending where
  | commit
  | rollback
deriving DecidableEq

namespace Ending

/-- What is asked of the connection. -/
def request : Ending → Request
  | commit => .commit
  | rollback => .rollback

/-- What is logged when it succeeds. -/
def logged (database : String) : Ending → LogEvent
  | commit => .transactionCommitted database
  | rollback => .transactionRolledBack database

end Ending

namespace Transaction

variable {σ κ : Type}

/-- Whether the transaction has a connection. -/
def isOpen (t : Transaction κ) : Bool :=
  match t.state with
  | .bound _ _ => true
  | _ => false

/-- Whether the transaction has ended. -/
def isCompleted (t : Transaction κ) : Bool :=
  match t.state with
  | .completed => true
  | _ => false

/-- The name of the database, while the transaction has a connection. -/
def databaseName? (t : Transaction κ) : Option String :=
  match t.state with
  | .bound database _ => some database.name
  | _ => none

/-- Opens a connection and begins the transaction on it. -/
def start (b : Backend σ κ) (calling : Calling) (db : Database) (t : Transaction κ) :
    SessionM σ (Except ExecError (Handle κ)) := do
  match ← Session.connect b calling db with
  | .error e => return .error e
  | .ok h =>
    match ← Session.send b calling (.begin t.isolation) h with
    | (.error e, h) =>
      Session.release b h
      return .error e
    | (.ok _, h) =>
      Session.log (.transactionStarted db.name t.isolation)
      return .ok h

/-- Sends a request within the transaction. -/
def send (b : Backend σ κ) (calling : Calling) (db : Database) (request : Request)
    (t : Transaction κ) : SessionM σ (Except ExecError ResultSet × Transaction κ) := do
  match t.state with
  | .completed => return (.error .transactionCompleted, t)
  | .bound database h =>
    if database.sameAs db then
      let (answer, h) ← Session.send b calling request h
      return (answer, { t with state := .bound database h })
    else
      return (.error (.transactionDatabaseMismatch database.name db.name), t)
  | .unbound =>
    match ← t.start b calling db with
    | .error e => return (.error e, t)
    | .ok h =>
      let (answer, h) ← Session.send b calling request h
      return (answer, { t with state := .bound db h })

/-- Brings the transaction to its end. One that was never used ends without a request. -/
def finish (b : Backend σ κ) (calling : Calling) (ending : Ending) (t : Transaction κ) :
    SessionM σ (Except ExecError Unit × Transaction κ) := do
  let done := { t with state := .completed }
  match t.state with
  | .completed => return (.error .transactionCompleted, done)
  | .unbound => return (.ok (), done)
  | .bound database h =>
    let (answer, h) ← Session.send b calling ending.request h
    match answer with
    | .error e =>
      Session.release b h
      return (.error e, done)
    | .ok _ =>
      Session.log (ending.logged database.name)
      Session.release b h
      return (.ok (), done)

/-- Gives the transaction up. -/
def discard (b : Backend σ κ) (t : Transaction κ) : SessionM σ Unit := do
  match t.state with
  | .bound database h =>
    Session.log (.transactionDiscarded database.name)
    Session.release b h
  | _ => return ()

end Transaction

end TypedSql
