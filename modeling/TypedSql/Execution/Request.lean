import TypedSql.Fragment
import TypedSql.Statement.Clause
/-!
# Requests to a backend

What is asked of an open connection, and what it answers.

## Main definitions

- `IsolationLevel`, `Timeout`, `Calling`: how a transaction is isolated, how long a command may
  take, and whether the caller waits for it on its own thread.
- `SqlCommand`: a statement with its parameters, ready to be sent.
- `Request`: a transaction command or a statement.
- `ResultSet`: the rows of an answer, which may end with an error.
-/

namespace TypedSql

/-- How far a transaction is shielded from others. -/
inductive IsolationLevel where
  | readUncommitted
  | readCommitted
  | repeatableRead
  | serializable
  | snapshot
deriving DecidableEq

namespace IsolationLevel

/-- The levels, weakest first. -/
def all : List IsolationLevel :=
  [readUncommitted, readCommitted, repeatableRead, serializable, snapshot]

/-- How SQL spells the level. -/
def sql : IsolationLevel → String
  | readUncommitted => "READ UNCOMMITTED"
  | readCommitted => "READ COMMITTED"
  | repeatableRead => "REPEATABLE READ"
  | serializable => "SERIALIZABLE"
  | snapshot => "SNAPSHOT"

/-- The name of the level in diagnostics. -/
def name : IsolationLevel → String
  | readUncommitted => "ReadUncommitted"
  | readCommitted => "ReadCommitted"
  | repeatableRead => "RepeatableRead"
  | serializable => "Serializable"
  | snapshot => "Snapshot"

end IsolationLevel

/-- How long a command may take. -/
structure Timeout where
  millis : Nat
deriving DecidableEq

/-- Whether a call blocks the thread of its caller. -/
inductive Calling where
  | blocking
  | asynchronous
deriving DecidableEq

/-- A statement that is ready to be sent. -/
structure SqlCommand where
  sql : String
  kind : StatementKind
  /-- The limit of this command; the backend has its own for commands without one. -/
  timeout? : Option Timeout
  parameters : List Parameter

/-- What can be asked of a connection. -/
inductive Request where
  | begin (isolation : IsolationLevel)
  | commit
  | rollback
  /-- Runs a statement for its rows. -/
  | reader (command : SqlCommand)
  /-- Runs a statement for the number of rows that it affects. -/
  | nonQuery (command : SqlCommand)

/-- What a connection answers. -/
structure ResultSet where
  fieldCount : Nat := 0
  rows : List (List Value) := []
  recordsAffected : Nat := 0
  /-- Why there are no rows after these, where that is an error. -/
  failure? : Option ExecError := none

end TypedSql
