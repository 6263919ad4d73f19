import TypedSql.Execution.Request
import TypedSql.Statement.Compiled
import TypedSql.Text.Quoted
/-!
# Log events

What executions report to a log. Each event has a level, a message that names its kind, and
fields.

## Main definitions

- `LogEvent`: the events.
- `LogEvent.level`, `LogEvent.message`, `LogEvent.fields`: how they are written.
-/

namespace TypedSql

/-- How important an event is. -/
inductive LogLevel where
  | trace
  | debug
  | info
  | warn
deriving DecidableEq

/-- The name of the level. -/
def LogLevel.name : LogLevel → String
  | trace => "TRACE"
  | debug => "DEBUG"
  | info => "INFO"
  | warn => "WARN"

/-- The value of a field of an event. -/
inductive LogValue where
  | text (s : String)
  | number (n : Nat)
deriving DecidableEq

/-- Something that is reported. -/
inductive LogEvent where
  | cachingCompiled (dialect : Dialect) (mode : ParameterMode) (sql : String)
  | executing (sql : String) (kind : StatementKind) (parameters : Nat)
      (debugName? : Option String) (database : String)
  | completed (kind : StatementKind) (rows? : Option Nat) (rowsAffected : Nat)
      (debugName? : Option String)
  | failed (sql : String) (kind : StatementKind) (debugName? : Option String) (error : ExecError)
  | hookPanicked (hook : String)
  | transactionStarted (database : String) (isolation : IsolationLevel)
  | transactionCommitted (database : String)
  | transactionRolledBack (database : String)
  | transactionDiscarded (database : String)
  | poolConnected (maxConnections : Nat)
  | connectionAcquired (idle : Nat)
  | transactionCommand (sql : String)
  | closingInTransaction
deriving DecidableEq

namespace LogEvent

/-- How important the event is. -/
def level : LogEvent → LogLevel
  | cachingCompiled .. => .trace
  | failed .. => .warn
  | hookPanicked _ => .warn
  | transactionDiscarded _ => .warn
  | closingInTransaction => .warn
  | poolConnected _ => .info
  | _ => .debug

/-- What happened. -/
def message : LogEvent → String
  | cachingCompiled .. => "Caching compiled query"
  | executing .. => "Executing query"
  | completed .. => "Query completed"
  | failed .. => "Query failed"
  | hookPanicked _ => "Query lifecycle hook panicked; ignoring"
  | transactionStarted .. => "Transaction started"
  | transactionCommitted _ => "Transaction committed"
  | transactionRolledBack _ => "Transaction rolled back"
  | transactionDiscarded _ => "Transaction dropped without commit or rollback; discarding"
  | poolConnected _ => "Connected to PostgreSQL"
  | connectionAcquired _ => "Acquired pooled connection"
  | transactionCommand _ => "Sending transaction command"
  | closingInTransaction => "Connection dropped inside a transaction, closing it"

/-- A count that may be missing. -/
def countText : Option Nat → String
  | none => "None"
  | some n => "Some(" ++ toString n ++ ")"

/-- What it happened to. -/
def fields : LogEvent → List (String × LogValue)
  | cachingCompiled dialect mode sql =>
    [("dialect", .text dialect.name), ("mode", .text mode.name), ("sql", .text sql)]
  | executing sql kind parameters debugName? database =>
    [("sql", .text sql), ("kind", .text kind.sql), ("parameters", .number parameters),
      ("debug_name", .text (Quoted.option debugName?)), ("database", .text database)]
  | completed kind rows? rowsAffected debugName? =>
    [("kind", .text kind.sql), ("rows", .text (countText rows?)),
      ("rows_affected", .number rowsAffected), ("debug_name", .text (Quoted.option debugName?))]
  | failed sql kind debugName? error =>
    [("sql", .text sql), ("kind", .text kind.sql),
      ("debug_name", .text (Quoted.option debugName?)), ("error", .text error.message)]
  | hookPanicked hook => [("hook", .text hook)]
  | transactionStarted database isolation =>
    [("database", .text database), ("isolation", .text isolation.sql)]
  | transactionCommitted database => [("database", .text database)]
  | transactionRolledBack database => [("database", .text database)]
  | transactionDiscarded database => [("database", .text database)]
  | poolConnected maxConnections => [("max_connections", .number maxConnections)]
  | connectionAcquired idle => [("idle", .number idle)]
  | transactionCommand sql => [("sql", .text sql)]
  | closingInTransaction => []

end LogEvent

end TypedSql
