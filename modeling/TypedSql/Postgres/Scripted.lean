import TypedSql.Number.Decimal
import TypedSql.Postgres.Address
import TypedSql.Postgres.Server
/-!
# Scripted servers

Servers that answer from a script, for databases that go by number. A server has a queue of
replies to statements, and failures that are waiting for certain commands. It notes what it gets.
The columns of a statement are fixed when the server first meets its text.

## Main definitions

- `Postgres.WireCell`, `Postgres.ServerReply`, `Postgres.ScriptedServer`: what a server will answer.
- `Postgres.ServerNote`: what a server got.
- `Postgres.scriptedServer`: the servers over a list of scripts.
-/

namespace TypedSql.Postgres

/-- What a reply says of a column in a row. -/
inductive WireCell where
  | value (v : Value)
  | bytes (content : List UInt8)

/-- What the column then holds. A value is sent like an argument. -/
def WireCell.content : WireCell → ColumnContent
  | value v => v.bound?.elim .null fun v => .value v.carried
  | bytes content => .bytes content

/-- The reply to the next statement. -/
structure ServerReply where
  columns : List String := []
  rows : List (List WireCell) := []
  /-- The tag of the completed command, if it is not that of a selection of the rows. -/
  tag? : Option String := none
  /-- The error after the rows. -/
  error? : Option ServerError := none
  /-- Whether the server breaks the session off instead of completing the command. -/
  hangsUp : Bool := false
  delay : Timeout := ⟨0⟩

/-- What a server got. -/
inductive ServerNote where
  | connect
  | command (sql : String)
  | statement (sql : String) (arguments : List (WireType × Value))

/-- How an argument is noted: its type, and the value that a column of the type has for it. -/
def Argument.noted (a : Argument) : WireType × Value :=
  (a.wireType, (a.wireType.read a.content).toOption.getD .null)

/-- What one server will answer. -/
structure ScriptedServer where
  /-- Why there is no server, where there is none. -/
  absence? : Option DriverError := none
  replies : List ServerReply := []
  /-- The columns of the statements met so far, by their text. -/
  columns : List (String × List String) := []
  /-- The commands that will fail, by their first word, with their errors. -/
  failures : List (String × ServerError) := []
  /-- The number of sessions so far. -/
  sessions : Nat := 0
  broken : List Nat := []

/-- What all servers will answer, and what they got. -/
structure ScriptedServers where
  servers : List ScriptedServer
  notes : List (Nat × ServerNote) := []

/-- What is reported of a session that was broken off. -/
def brokenOff : DriverError := .io "expected to read 5 bytes, got 0 bytes at EOF"

/-- The rows affected according to the tag of a command: the number that its last word begins with,
after a plus sign or not. There are none if the tag has no space. -/
def affectedByTag (tag : String) : Nat :=
  if ' ' ∈ tag.toList then
    let word := (tag.toList.reverse.takeWhile (· ≠ ' ')).reverse
    let unsigned := if word.head? = some '+' then word.drop 1 else word
    let n := Decimal.value (unsigned.takeWhile Char.isDigit)
    if n < UInt64.size then n else 0
  else 0

namespace ScriptedServer

/-- The first word of a command. -/
def commandWord (sql : String) : String := String.ofList (sql.toList.takeWhile (· ≠ ' '))

/-- A command succeeds unless a failure is waiting for it, which happens once. -/
def attempt (word : String) (s : ScriptedServer) : Except DriverError Unit × ScriptedServer :=
  match s.failures.lookup word with
  | none => (.ok (), s)
  | some e =>
    (.error (.database e),
      { s with failures := s.failures.eraseP fun failure => failure.1 = word })

/-- Why there is no server: none is running, or the database has an address of its own, to which no
server belongs. -/
def absenceOf? (address? : Option String) (isRunning : Bool) : Option DriverError :=
  match address? with
  | some address => some (if Address.isSocket address then .noSocket else .refused)
  | none => if isRunning then none else some .noSocket

/-- The columns of a statement, which the next reply fixes for a text that is new. -/
def prepare (sql : String) (s : ScriptedServer) : List String × ScriptedServer :=
  match s.columns.lookup sql with
  | some columns => (columns, s)
  | none =>
    let columns := s.replies.head?.elim [] (·.columns)
    (columns, { s with columns := (sql, columns) :: s.columns })

/-- A row of as many values as there are columns; missing ones are `NULL`. -/
def fitRow : List String → List WireCell → List WireCell
  | [], _ => []
  | _ :: columns, [] => .value .null :: fitRow columns []
  | _ :: columns, cell :: cells => cell :: fitRow columns cells

/-- What a reply means for a statement with columns. -/
def result (columns : List String) (reply : ServerReply) : Except DriverError ServerAnswer :=
  match reply.error?, reply.hangsUp with
  | some e, _ => .error (.database e)
  | none, true => .error brokenOff
  | none, false =>
    let tag := reply.tag?.getD ("SELECT " ++ toString reply.rows.length)
    let rows := reply.rows.map fun row => (fitRow columns row).map WireCell.content
    .ok ⟨columns, rows, affectedByTag tag⟩

/-- Takes a statement on a session. -/
def execute (session : Nat) (sql : String) (s : ScriptedServer) : Served × ScriptedServer :=
  let (columns, s) := s.prepare sql
  let reply := s.replies.head?.getD {}
  let broken := if reply.hangsUp then session :: s.broken else s.broken
  (⟨reply.delay, result columns reply⟩, { s with replies := s.replies.tail, broken })

end ScriptedServer

namespace ScriptedServers

/-- Applies a change to a server. -/
def update {α : Type} (id : Nat) (f : ScriptedServer → α × ScriptedServer)
    (s : ScriptedServers) : α × ScriptedServers :=
  let (a, server) := f (s.servers[id]?.getD {})
  (a, { s with servers := s.servers.set id server })

/-- Notes what a server got. -/
def note (id : Nat) (n : ServerNote) (s : ScriptedServers) : ScriptedServers :=
  { s with notes := s.notes ++ [(id, n)] }

/-- Whether a session still answers. -/
def isAlive (id session : Nat) (s : ScriptedServers) : Bool :=
  s.servers[id]?.elim false fun server => !server.broken.contains session

/-- Adds a reply to the queue of a server. -/
def queue (id : Nat) (reply : ServerReply) (s : ScriptedServers) : ScriptedServers :=
  { s with servers := s.servers.modify id fun x => { x with replies := x.replies ++ [reply] } }

/-- Makes the next command with a first word fail. -/
def failNext (id : Nat) (word : String) (e : ServerError) (s : ScriptedServers) : ScriptedServers :=
  { s with
    servers := s.servers.modify id fun x =>
      { x with failures := x.failures ++ [(word, e)] } }

end ScriptedServers

/-- The servers over scripts. Connecting counts as the command `CONNECT`. A statement whose answer
takes time is not noted. -/
def scriptedServer : Server ScriptedServers where
  connect database s :=
    match s.servers[database]?.elim (some .noSocket) (·.absence?) with
    | some e => (.error e, s)
    | none =>
      ScriptedServers.update database
        (fun server =>
          let (result, server) := server.attempt "CONNECT"
          (result.map fun _ => server.sessions, { server with sessions := server.sessions + 1 }))
        (s.note database .connect)
  command database session sql s :=
    if s.isAlive database session then
      ScriptedServers.update database (ScriptedServer.attempt (ScriptedServer.commandWord sql))
        (s.note database (.command sql))
    else (.error brokenOff, s)
  execute database session sql arguments s :=
    if s.isAlive database session then
      let (served, s) := s.update database (ScriptedServer.execute session sql)
      let note := ServerNote.statement sql (arguments.map Argument.noted)
      (served, if served.delay.millis = 0 then s.note database note else s)
    else (⟨⟨0⟩, .error brokenOff⟩, s)
  isAlive database session s := s.isAlive database session
  disconnect _ _ s := s

end TypedSql.Postgres
