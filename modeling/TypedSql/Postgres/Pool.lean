import TypedSql.Execution.Session
import TypedSql.Postgres.Config
import TypedSql.Postgres.Server
import TypedSql.Postgres.Address
/-!
# Pooled connections

A pool keeps the sessions that are not in use and hands them out again. A connection remembers
whether a transaction is open on it. One that is given up goes back to the pool, unless a
transaction is open, its session is broken or the pool is closed; then its session ends.

## Main definitions

- `Postgres.Pool`, `Postgres.Connection`: a pool, and a session that it handed out.
- `Postgres.Cluster`: the pools of all databases and the state of their servers.
- `Postgres.Cluster.addPool`: the pool of a database, from its address and its settings.
- `Postgres.Cluster.acquire`, `Postgres.Cluster.release`: taking a session and giving it up.
- `Postgres.backend`: the backend for executions.

## Design notes

There is no snapshot isolation by that name: the server's repeatable reads are that. A transaction
is over when its end has been sent, whatever the answer, so that nothing is assumed of a server
that refuses to commit.
-/

namespace TypedSql.Postgres

/-- The sessions of a database that are open. -/
structure Pool where
  maxConnections : Nat
  acquireTimeout : Timeout
  /-- The limit of statements that have none of their own. -/
  statementTimeout? : Option Timeout
  /-- The sessions that are not in use, oldest first. Closing the pool ends them but keeps their
  count. -/
  idle : List Nat := []
  size : Nat := 0
  closed : Bool := false

/-- An empty pool. -/
def Pool.ofConfig (c : Config) : Pool where
  maxConnections := c.maxConnections.toNat
  acquireTimeout := ⟨1000 * c.acquireTimeoutSecs.toNat⟩
  statementTimeout? := c.statementTimeoutSecs?.map fun secs => ⟨1000 * secs.toNat⟩

/-- Closes the pool. -/
def Pool.close (p : Pool) : Pool :=
  if p.closed then p else { p with closed := true, size := p.size - p.idle.length }

/-- A session that a pool handed out. -/
structure Connection where
  database : Nat
  session : Nat
  inTransaction : Bool := false
  timeout? : Option Timeout := none
deriving DecidableEq

/-- The pools of all databases, by number, and the state of their servers. -/
structure Cluster (ς : Type) where
  pools : List Pool
  servers : ς

/-- How the server spells a level. -/
def isolationSql : IsolationLevel → String
  | .snapshot => IsolationLevel.repeatableRead.sql
  | level => level.sql

namespace Cluster

variable {ς : Type}

/-- Changes the pool of a database. -/
def updatePool (database : Nat) (f : Pool → Pool) (c : Cluster ς) : Cluster ς :=
  { c with pools := c.pools.modify database f }

/-- Opens a session. As long as the server cannot take it for the time being, another attempt is
made after a wait, which doubles up to the longest one, and within the time that is left. -/
def connectWithin (server : Server ς) (database left wait longest : Nat) (s : ς) :
    Except DriverError Nat × ς :=
  match server.connect database s with
  | (.error e, s) =>
    if !e.isTransient then (.error e, s)
    else if left ≤ wait ∨ wait = 0 then (.error .poolTimedOut, s)
    else connectWithin server database (left - wait) (min (2 * wait) longest) longest s
  | other => other
termination_by left
decreasing_by omega

/-- Takes a session from a pool, or opens one if none is left over. -/
def acquire (server : Server ς) (database : Nat) (pool : Pool) (c : Cluster ς) :
    Except DriverError Connection × Cluster ς :=
  if pool.closed then (.error .poolClosed, c)
  else if pool.acquireTimeout.millis = 0 then (.error .poolTimedOut, c)
  else
    match pool.idle with
    | session :: idle =>
      (.ok { database, session, timeout? := pool.statementTimeout? },
        c.updatePool database fun pool => { pool with idle })
    | [] =>
      if pool.maxConnections ≤ pool.size then (.error .poolTimedOut, c)
      else
        let time := pool.acquireTimeout.millis
        let (result, servers) := c.servers |> connectWithin server database time 10 (time / 5)
        let c := { c with servers }
        match result with
        | .error e => (.error e, c)
        | .ok session =>
          (.ok { database, session, timeout? := pool.statementTimeout? },
            c.updatePool database fun pool => { pool with size := pool.size + 1 })

/-- Whether the session of a connection can be handed out again. -/
def canReuse (server : Server ς) (connection : Connection) (c : Cluster ς) : Bool :=
  !connection.inTransaction && server.isAlive connection.database connection.session c.servers
    && !(c.pools[connection.database]?.elim true (·.closed))

/-- Gives a session up. -/
def release (server : Server ς) (connection : Connection) (c : Cluster ς) : Cluster ς :=
  if c.canReuse server connection then
    c.updatePool connection.database fun pool =>
      { pool with idle := pool.idle ++ [connection.session] }
  else
    let c := c.updatePool connection.database fun pool => { pool with size := pool.size - 1 }
    { c with servers := server.disconnect connection.database connection.session c.servers }

/-- Opens the first session of a pool, which shows that there is a server. -/
def connectNow (server : Server ς) (database : Nat) (pool : Pool) (c : Cluster ς) :
    Except DriverError (List LogEvent) × Cluster ς :=
  let (result, c) := c.acquire server database pool
  match result with
  | .error e => (.error e, c)
  | .ok connection => (.ok [.poolConnected pool.maxConnections], c.release server connection)

/-- Adds the pool of the next database, once its address is checked. It connects at once if it is
`eager`, and on its first use otherwise. -/
def addPool (server : Server ς) (url : String) (eager : Bool) (pool : Pool) (c : Cluster ς) :
    Except DriverError (List LogEvent) × Cluster ς :=
  let database := c.pools.length
  let c := { c with pools := c.pools ++ [pool] }
  match Address.check url with
  | .error e => (.error e, c)
  | .ok () => if eager then c.connectNow server database pool else (.ok [], c)

/-- Sends a transaction command, which is logged. -/
def sendCommand (server : Server ς) (sql : String) (connection : Connection) (c : Cluster ς) :
    Reply (Cluster ς) (Except ExecError ResultSet) :=
  let (result, servers) := server.command connection.database connection.session sql c.servers
  { answer :=
      match result with
      | .ok () => .ok {}
      | .error e => .error (Error.database e).toExecError
    state := { c with servers }
    log := [.transactionCommand sql] }

/-- Runs a statement within its time limit, and reads what is needed of the answer. -/
def sendStatement (server : Server ς) (command : SqlCommand)
    (read : ServerAnswer → Except Error ResultSet) (connection : Connection) (c : Cluster ς) :
    Reply (Cluster ς) (Except ExecError ResultSet) :=
  let arguments := command.parameters.map Parameter.argument
  let (served, servers) :=
    server.execute connection.database connection.session command.sql arguments c.servers
  let timedOut :=
    match command.timeout?.or connection.timeout? with
    | none => false
    | some limit => decide (limit.millis ≤ served.delay.millis)
  { answer :=
      if timedOut then .error .timeout
      else
        match served.result with
        | .error e => .error (Error.database e).toExecError
        | .ok answer => (read answer).mapError Error.toExecError
    state := { c with servers } }

/-- The rows of an answer. The number of rows affected is that of the rows, except of a
selection. -/
def readAnswer (kind : StatementKind) (answer : ServerAnswer) : Except Error ResultSet :=
  match readRows answer.columns answer.rows with
  | .error e => .error e
  | .ok rows =>
    .ok { fieldCount := if rows.isEmpty then 0 else answer.columns.length
          rows
          recordsAffected := if kind = .select then 0 else rows.length }

end Cluster

variable {ς : Type}

/-- Answers a request on a connection. -/
def answer (server : Server ς) (request : Request) (connection : Connection) (c : Cluster ς) :
    Reply (Cluster ς) (Except ExecError ResultSet × Connection) :=
  let keep (r : Reply (Cluster ς) (Except ExecError ResultSet)) (inTransaction : Bool) :
      Reply (Cluster ς) (Except ExecError ResultSet × Connection) :=
    { r with answer := (r.answer, { connection with inTransaction }) }
  match request with
  | .begin isolation =>
    let r := c.sendCommand server ("BEGIN ISOLATION LEVEL " ++ isolationSql isolation) connection
    keep r (connection.inTransaction || r.answer.isOk)
  | .commit => keep (c.sendCommand server "COMMIT" connection) false
  | .rollback => keep (c.sendCommand server "ROLLBACK" connection) false
  | .reader command =>
    keep (c.sendStatement server command (Cluster.readAnswer command.kind) connection)
      connection.inTransaction
  | .nonQuery command =>
    let count (a : ServerAnswer) : Except Error ResultSet := .ok { recordsAffected := a.affected }
    keep (c.sendStatement server command count connection) connection.inTransaction

/-- The backend over pools. Where blocking calls cannot be served, they fail before anything is
done. -/
def backend (server : Server ς) (servesBlocking : Bool) : Backend (Cluster ς) Connection where
  connect calling database c :=
    if calling = .blocking ∧ !servesBlocking then ⟨.error Error.noRuntime.toExecError, c, []⟩
    else
      match c.pools[database]? with
      | none => ⟨.error (Error.database .poolClosed).toExecError, c, []⟩
      | some pool =>
        let (result, c) := c.acquire server database pool
        match result with
        | .error e => ⟨.error (Error.database e).toExecError, c, []⟩
        | .ok connection =>
          let idle := c.pools[database]?.elim 0 (·.idle.length)
          ⟨.ok connection, c, [.connectionAcquired idle]⟩
  send calling request connection c :=
    if calling = .blocking ∧ !servesBlocking then
      ⟨(.error Error.noRuntime.toExecError, connection), c, []⟩
    else answer server request connection c
  release connection c :=
    { answer := ()
      state := c.release server connection
      log := if connection.inTransaction then [.closingInTransaction] else [] }

end TypedSql.Postgres
