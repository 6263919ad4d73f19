import TypedSql.Execution.Session
/-!
# Scripted databases

A backend that answers from a script: every database has a queue of replies to the statements sent
to it, and failures that are waiting for certain calls. Nothing is stored.

## Main definitions

- `ScriptedReply`: the answer to a statement.
- `ScriptedDatabase`: what one database will answer.
- `Scripted.backend`: the backend over a list of them.
-/

namespace TypedSql

/-- The answer to the next statement. -/
inductive ScriptedReply where
  /-- Rows, of which only some come before the connection is lost, if `failAfter?` says so. -/
  | answer (rows : List (List Value)) (affected : Nat) (failAfter? : Option Nat)
  | failure (e : ExecError)

/-- The calls that can be made to fail. -/
inductive FailingCall where
  | opening
  | begin
  | commit
  | rollback
deriving DecidableEq

/-- What a database will answer. -/
structure ScriptedDatabase where
  replies : List ScriptedReply := []
  failures : List (FailingCall × String) := []

/-- What all databases will answer, by number. -/
abbrev Scripted := List ScriptedDatabase

namespace ScriptedReply

/-- The answer to a statement that is run for its rows. -/
def resultSet : ScriptedReply → Except ExecError ResultSet
  | failure e => .error e
  | answer rows affected none => .ok { rows, recordsAffected := affected }
  | answer rows affected (some n) =>
    .ok { rows := rows.take n, recordsAffected := affected,
          failure? := if n ≤ rows.length then some (.connection "connection lost") else none }

/-- The answer to a statement that is run for its effect. -/
def effect : ScriptedReply → Except ExecError ResultSet
  | failure e => .error e
  | answer _ affected _ => .ok { recordsAffected := affected }

end ScriptedReply

namespace ScriptedDatabase

/-- Takes the next reply; there are no rows without one. -/
def takeReply (db : ScriptedDatabase) : ScriptedReply × ScriptedDatabase :=
  match db.replies with
  | [] => (.answer [] 0 none, db)
  | reply :: rest => (reply, { db with replies := rest })

/-- A call succeeds unless a failure is waiting for it, which happens once. -/
def attempt (call : FailingCall) (db : ScriptedDatabase) :
    Except ExecError Unit × ScriptedDatabase :=
  match db.failures.lookup call with
  | none => (.ok (), db)
  | some text =>
    (.error (.connection text),
      { db with failures := db.failures.eraseP fun failure => failure.1 = call })

/-- Answers a request. -/
def answer (request : Request) (db : ScriptedDatabase) :
    Except ExecError ResultSet × ScriptedDatabase :=
  let command (call : FailingCall) :=
    let (result, db) := db.attempt call
    (result.map fun _ => ({} : ResultSet), db)
  match request with
  | .begin _ => command .begin
  | .commit => command .commit
  | .rollback => command .rollback
  | .reader _ => let (reply, db) := db.takeReply; (reply.resultSet, db)
  | .nonQuery _ => let (reply, db) := db.takeReply; (reply.effect, db)

end ScriptedDatabase

namespace Scripted

/-- Applies a change to a database, which has an empty script when it was not mentioned before. -/
def update {α : Type} (id : Nat) (f : ScriptedDatabase → α × ScriptedDatabase) (s : Scripted) :
    α × Scripted :=
  let (a, db) := f (s[id]?.getD {})
  (a, s.set id db)

/-- The backend whose connections are numbers of databases. -/
def backend : Backend Scripted Nat where
  connect _ id s :=
    let (result, s) := update id (ScriptedDatabase.attempt .opening) s
    ⟨result.map fun _ => id, s, []⟩
  send _ request id s :=
    let (result, s) := update id (ScriptedDatabase.answer request) s
    ⟨(result, id), s, []⟩
  release _ s := ⟨(), s, []⟩

/-- Adds a reply to the queue of a database. -/
def queue (id : Nat) (reply : ScriptedReply) (s : Scripted) : Scripted :=
  s.modify id fun db => { db with replies := db.replies ++ [reply] }

/-- Makes the next call of a kind fail. -/
def failNext (id : Nat) (call : FailingCall) (text : String) (s : Scripted) : Scripted :=
  s.modify id fun db => { db with failures := db.failures ++ [(call, text)] }

end Scripted

end TypedSql
