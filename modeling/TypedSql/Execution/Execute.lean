import TypedSql.Execution.Transaction
import TypedSql.Statement.Builder
/-!
# Executing statements

A built statement runs against a database, on a connection of its own or within a transaction. It
is rendered once for each dialect and parameter mode. When its parameters are found, the observer
of the database is told before anything is sent and after everything is read.

## Main definitions

- `Executable`: a built statement with the renderings made of it.
- `ExecuteOptions`: the timeout, the parameter mode and a name for one execution.
- `QueryResult`: the rows of an execution, with `first?`, `single` and `singleOrNone`.
- `Executable.render`: the text and the parameters that a prepared execution would send.
- `Executable.execute`: an execution.
-/

namespace TypedSql

/-- A built statement with the renderings made of it so far. -/
structure Executable where
  built : Built
  cache : CompiledCache := {}

/-- What can be chosen for an execution. -/
structure ExecuteOptions where
  timeout? : Option Timeout := none
  mode? : Option ParameterMode := none
  debugName? : Option String := none

/-- The rows of an execution. -/
structure QueryResult where
  rows : List (List Cell)
  rowsAffected : Nat

namespace QueryResult

/-- The first row, if there is one. -/
def first? (r : QueryResult) : Option (List Cell) := r.rows.head?

/-- At most one row. -/
def singleOrNone (r : QueryResult) : Except ExecError (Option (List Cell)) :=
  match r.rows with
  | [] => .ok none
  | [row] => .ok (some row)
  | _ => .error .multipleRows

/-- Exactly one row. -/
def single (r : QueryResult) : Except ExecError (List Cell) :=
  match r.singleOrNone with
  | .error e => .error e
  | .ok none => .error .noRows
  | .ok (some row) => .ok row

end QueryResult

/-- What an execution yields. -/
inductive Outcome where
  | rows (result : QueryResult)
  | affected (count : Nat)

namespace Outcome

/-- The number of rows, for statements that yield rows. -/
def rowCount? : Outcome → Option Nat
  | rows result => some result.rows.length
  | affected _ => none

/-- The number of rows that the database reports as affected. -/
def rowsAffected : Outcome → Nat
  | rows result => result.rowsAffected
  | affected count => count

end Outcome

namespace Built

/-- How the statement is asked for. -/
def request : Built → SqlCommand → Request
  | query _, c => .reader c
  | command _, c => .nonQuery c

/-- What an answer means for the statement. A row that cannot be read wins over an error after
it. -/
def outcome : Built → ResultSet → Except ExecError Outcome
  | command _, answer => .ok (.affected answer.recordsAffected)
  | query q, answer =>
    match (({ rows := answer.rows } : Cursor).readAll q.selector).1, answer.failure? with
    | .error e, _ => .error (.decode e)
    | .ok _, some e => .error e
    | .ok rows, none => .ok (.rows ⟨rows, answer.recordsAffected⟩)

end Built

namespace Executable

variable {σ κ : Type}

/-- The rendering for a dialect and a mode. That one is made is logged. -/
def compile (key : CompileKey) (q : Executable) : SessionM σ (Compiled × Executable) := do
  let (c, cache) := q.cache.getOrCompile q.built.statement key
  if (q.cache.find? key).isNone then
    Session.log (.cachingCompiled key.dialect key.mode c.sql)
  return (c, { q with cache })

/-- The text and the parameters of a prepared statement, given the values of its slots. -/
def render (d : Dialect) (slots : List Value) (q : Executable) :
    SessionM σ (Except QueryError (String × List Parameter) × Executable) := do
  let (c, q) ← q.compile ⟨d, .bind⟩
  return ((c.parameters slots).map fun parameters => (c.sql, parameters), q)

/-- Sends a request on a connection of its own, or within a transaction. -/
def dispatch (b : Backend σ κ) (calling : Calling) (db : Database) (request : Request)
    (t? : Option (Transaction κ)) :
    SessionM σ (Except ExecError ResultSet × Option (Transaction κ)) := do
  match t? with
  | none => return (← Session.sendAlone b calling db request, none)
  | some t =>
    let (answer, t) ← t.send b calling db request
    return (answer, some t)

/-- Reports how an execution ended. -/
def conclude (db : Database) (executing : QueryExecuting) (result : Except ExecError Outcome) :
    SessionM σ Unit := do
  match result with
  | .ok outcome =>
    Session.log (.completed executing.kind outcome.rowCount? outcome.rowsAffected
      executing.debugName?)
    Session.notify db (.performed ⟨executing, outcome.rowCount?, outcome.rowsAffected, none⟩)
  | .error e =>
    Session.log (.failed executing.sql executing.kind executing.debugName? e)
    Session.notify db (.performed ⟨executing, none, 0, some e⟩)

/-- Runs a command whose parameters are known. -/
def run (b : Backend σ κ) (calling : Calling) (db : Database) (debugName? : Option String)
    (command : SqlCommand) (t? : Option (Transaction κ)) (built : Built) :
    SessionM σ (Except ExecError Outcome × Option (Transaction κ)) := do
  let executing : QueryExecuting :=
    ⟨db.name, command.sql, command.kind, t?.map (·.isolation), command.timeout?, debugName?⟩
  Session.log (.executing command.sql command.kind command.parameters.length debugName? db.name)
  Session.notify db (.executing executing)
  let (answer, t?) ← dispatch b calling db (built.request command) t?
  let result := answer.bind built.outcome
  conclude db executing result
  return (result, t?)

/-- Runs the statement, prepared when there are values for its slots. A prepared one always binds
its values; otherwise the options or `defaultMode` say how values are sent. -/
def execute (b : Backend σ κ) (calling : Calling) (db : Database) (defaultMode : ParameterMode)
    (options : ExecuteOptions) (slots? : Option (List Value)) (t? : Option (Transaction κ))
    (q : Executable) :
    SessionM σ (Except ExecError Outcome × Option (Transaction κ) × Executable) := do
  let mode := if slots?.isSome then .bind else options.mode?.getD defaultMode
  let (c, q) ← q.compile ⟨db.dialect, mode⟩
  match c.parameters (slots?.getD []) with
  | .error e => return (.error (.query e), t?, q)
  | .ok parameters =>
    let command : SqlCommand :=
      ⟨c.sql, q.built.statement.kind, options.timeout?.or db.timeout?, parameters⟩
    let (result, t?) ← run b calling db options.debugName? command t? q.built
    return (result, t?, q)

end Executable

end TypedSql
