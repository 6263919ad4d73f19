import TypedSql.Execution.Request
import TypedSql.Postgres.Column
/-!
# Servers

A server as a pool of connections uses it. Every connection has a session at its server. A session
is given transaction commands and statements with arguments, and can break.

## Main definitions

- `Postgres.Server`: what servers do, over a state of their own.
- `Postgres.ServerAnswer`: the rows of a statement and the rows it affected.
-/

namespace TypedSql.Postgres

/-- The answer to a statement. -/
structure ServerAnswer where
  /-- The types of the columns, as the server spells them. -/
  columns : List String := []
  rows : List (List ColumnContent) := []
  affected : Nat := 0

/-- An answer and how long it takes. -/
structure Served where
  delay : Timeout
  result : Except DriverError ServerAnswer

/-- The servers of all databases, which go by number, over a state `ς`. -/
structure Server (ς : Type) where
  /-- Opens a session. -/
  connect (database : Nat) : ς → Except DriverError Nat × ς
  /-- Takes a transaction command. -/
  command (database session : Nat) (sql : String) : ς → Except DriverError Unit × ς
  /-- Takes a statement with arguments. -/
  execute (database session : Nat) (sql : String) (arguments : List Argument) : ς → Served × ς
  /-- Whether a session still answers. -/
  isAlive (database session : Nat) : ς → Bool
  /-- Ends a session. -/
  disconnect (database session : Nat) : ς → ς

end TypedSql.Postgres
