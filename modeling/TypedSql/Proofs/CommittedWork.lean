import TypedSql.Proofs.PooledSessions
import TypedSql.Proofs.TransactionSteps
/-!
# Committed work

A server does the work of a transaction on a session and makes it lasting when it is committed. A
statement that fails spoils the transaction: from then on statements are refused, and a commit rolls
everything back, with an answer that is no error. A commit that succeeds therefore keeps what the
statements did if and only if none was answered with an error.

## Main definitions

- `Postgres.Work`, `Postgres.Stage`: statements, and how far a session has come with them.
- `Postgres.Server.KeepsRecords`: what is assumed of servers.
- `Transaction.useAll`, `UseLog`: uses of a transaction in turn, with their results.
- `Postgres.Stage.Follows`: how a session stands to the uses so far.
- `Postgres.Ongoing`: what is so in the middle of a transaction.

## Main statements

- `Postgres.Ongoing.triple_use`, `Postgres.Ongoing.triple_useAll`: what one use keeps, and what
  all keep.
- `Postgres.triple_commit`: what a commit makes lasting.
- `Postgres.commit_keeps_answered_work_iff`: what becomes of the work of a whole transaction.
-/

namespace TypedSql

open Session (Triple)

namespace Postgres

section Records

/-- A statement as a server gets it. -/
structure Work where
  sql : String
  arguments : List Argument
deriving DecidableEq

/-- How far a session has come: it has no transaction, or one with the work done so far, or one that
a statement has spoiled. -/
inductive Stage where
  | idle
  | working (work : List Work)
  | failed
deriving DecidableEq

namespace Stage

def isOpen : Stage → Bool
  | idle => false
  | _ => true

/-- The work that a commit makes lasting; a transaction that has failed is rolled back by it. -/
def work : Stage → List Work
  | working work => work
  | _ => []

def afterBegin (succeeded : Bool) : Stage → Stage
  | idle => if succeeded then working [] else idle
  | stage => stage

def afterStatement (w : Work) (succeeded : Bool) : Stage → Stage
  | idle => idle
  | working work => if succeeded then working (work ++ [w]) else failed
  | failed => failed

/-- The work that is lasting at once. -/
def workAlone (w : Work) (succeeded : Bool) : Stage → List Work
  | idle => if succeeded then [w] else []
  | _ => []

end Stage

/-- Whether sessions have transactions. -/
def openness (stages : Nat × Nat → Option Stage) (key : Nat × Nat) : Option Bool :=
  (stages key).map Stage.isOpen

theorem openness_update (stages : Nat × Nat → Option Stage) (key : Nat × Nat) (x : Option Stage) :
    openness (Function.update stages key x) =
      Function.update (openness stages) key (x.map Stage.isOpen) := by
  funext other
  by_cases hother : other = key
  · subst hother
    simp [openness]
  · simp [openness, hother]

variable {ς : Type}

/-- What is assumed of servers. A session has a stage if it is open, and each database has the work
that was committed in it, in order. -/
structure Server.KeepsRecords (server : Server ς) (stage : ς → Nat × Nat → Option Stage)
    (committed : ς → Nat → List Work) (controls : String → Bool) : Prop where
  /-- A session that is opened is a new one, without a transaction. -/
  connect : ∀ {database session s s'}, server.connect database s = (.ok session, s') →
    stage s (database, session) = none ∧
      stage s' = Function.update (stage s) (database, session) (some .idle) ∧
        committed s' = committed s
  refuse : ∀ {database e s s'}, server.connect database s = (.error e, s') →
    stage s' = stage s ∧ committed s' = committed s
  begin : ∀ {database session level result s s'},
    server.command database session ("BEGIN ISOLATION LEVEL " ++ level) s = (result, s') →
    stage s' = Function.update (stage s) (database, session)
      ((stage s (database, session)).map (·.afterBegin result.isOk)) ∧ committed s' = committed s
  /-- A commit that is answered without an error makes the work of its transaction lasting. -/
  commit : ∀ {database session result s s'},
    server.command database session "COMMIT" s = (result, s') →
    stage s' = Function.update (stage s) (database, session)
      ((stage s (database, session)).map fun _ => .idle) ∧
    (result.isOk = true → committed s' = Function.update (committed s) database
      (committed s database ++ (stage s (database, session)).elim [] Stage.work))
  rollback : ∀ {database session result s s'},
    server.command database session "ROLLBACK" s = (result, s') →
    stage s' = Function.update (stage s) (database, session)
      ((stage s (database, session)).map fun _ => .idle) ∧ committed s' = committed s
  execute : ∀ {database session sql arguments served s s'}, controls sql = false →
    server.execute database session sql arguments s = (served, s') →
    stage s' = Function.update (stage s) (database, session)
      ((stage s (database, session)).map (·.afterStatement ⟨sql, arguments⟩ served.result.isOk)) ∧
    committed s' = Function.update (committed s) database (committed s database ++
      (stage s (database, session)).elim [] (·.workAlone ⟨sql, arguments⟩ served.result.isOk))
  /-- After a statement that failed, all others are refused. -/
  refuseFailed : ∀ {database session sql} (arguments) {s}, controls sql = false →
    stage s (database, session) = some .failed →
      (server.execute database session sql arguments s).1.result.isOk = false
  disconnect : ∀ database session s,
    committed (server.disconnect database session s) = committed s ∧
      ∀ other ≠ (database, session),
        stage (server.disconnect database session s) other = stage s other
  openings : ∀ word ∈ statementOpenings, ∀ rest, controls (word ++ rest) = false

variable {server : Server ς} {stage : ς → Nat × Nat → Option Stage}
variable {committed : ς → Nat → List Work} {controls : String → Bool}

theorem Stage.isOpen_afterBegin (succeeded : Bool) (stage : Stage) :
    (stage.afterBegin succeeded).isOpen = (stage.isOpen || succeeded) := by
  cases stage <;> cases succeeded <;> rfl

theorem Stage.isOpen_afterStatement (w : Work) (succeeded : Bool) (stage : Stage) :
    (stage.afterStatement w succeeded).isOpen = stage.isOpen := by
  cases stage <;> cases succeeded <;> rfl

/-- Such servers keep track of transactions. -/
theorem Server.KeepsRecords.tracksTransactions
    (h : server.KeepsRecords stage committed controls) :
    server.TracksTransactions (fun s => openness (stage s)) controls where
  connect := by
    intro database session s s' hconnect
    obtain ⟨hnone, hstage, -⟩ := h.connect hconnect
    rw [hstage, openness_update]
    exact ⟨by rw [openness, hnone]; rfl, rfl⟩
  refuse := by
    intro database e s s' hconnect
    rw [(h.refuse hconnect).1]
  begin := by
    intro database session level result s s' hcommand
    rw [(h.begin hcommand).1, openness_update, Option.map_map, openness, Option.map_map]
    simp only [Function.comp_def, Stage.isOpen_afterBegin]
  finish := by
    intro database session sql result s s' hsql hcommand
    have hstage : stage s' = Function.update (stage s) (database, session)
        ((stage s (database, session)).map fun _ => .idle) := by
      obtain rfl | rfl := hsql
      · exact (h.commit hcommand).1
      · exact (h.rollback hcommand).1
    rw [hstage, openness_update, Option.map_map, openness, Option.map_map]
    rfl
  execute := by
    intro database session sql arguments s hsql
    rw [(h.execute hsql rfl).1, openness_update, Option.map_map]
    simp only [Function.comp_def, Stage.isOpen_afterStatement]
    exact Function.update_eq_self ..
  disconnect := by
    intro database session s other hother
    rw [openness, (h.disconnect database session s).2 other hother, openness]
  openings := h.openings

end Records

end Postgres

open Postgres

section Uses

/-- The statement as it reaches the server. -/
def SqlCommand.work (c : SqlCommand) : Work := ⟨c.sql, c.parameters.map Parameter.argument⟩

/-- What the use asks for, if there is a value for each slot. -/
def Use.work? (u : Use) : Option Work :=
  (u.statement.command u.database u.defaultMode u.options u.slots?).toOption.map SqlCommand.work

/-- Uses of a transaction with their results, in order. -/
abbrev UseLog := List (Use × Except ExecError (Option Outcome))

namespace UseLog

def asked (l : UseLog) : List Work := l.filterMap (·.1.work?)

/-- What was asked for with success. -/
def answered (l : UseLog) : List Work :=
  l.filterMap fun entry => if entry.2.isOk then entry.1.work? else none

/-- A use fails, and all later ones do. -/
def EndsInErrors (l : UseLog) : Prop :=
  ∃ before u e after, l = before ++ (u, .error e) :: after ∧ ∀ entry ∈ after, entry.2.isOk = false

variable {l : UseLog} {u : Use} {result : Except ExecError (Option Outcome)}

theorem asked_concat (l : UseLog) (u : Use) (result : Except ExecError (Option Outcome)) :
    asked (l ++ [(u, result)]) = l.asked ++ u.work?.toList := by
  cases h : u.work? <;> simp [asked, h]

theorem answered_concat_of_isOk (h : result.isOk = true) :
    answered (l ++ [(u, result)]) = l.answered ++ u.work?.toList := by
  cases hwork : u.work? <;> simp [answered, h, hwork]

theorem answered_concat_of_not_isOk (h : result.isOk = false) :
    answered (l ++ [(u, result)]) = l.answered := by
  simp [answered, h]

theorem EndsInErrors.concat (hl : l.EndsInErrors) (h : result.isOk = false) :
    EndsInErrors (l ++ [(u, result)]) := by
  obtain ⟨before, v, e, after, rfl, hafter⟩ := hl
  refine ⟨before, v, e, after ++ [(u, result)], by simp, ?_⟩
  simpa [or_imp, forall_and, h] using hafter

theorem endsInErrors_concat (l : UseLog) (u : Use) (h : result.isOk = false) :
    EndsInErrors (l ++ [(u, result)]) := by
  cases result with
  | ok outcome => cases h
  | error e => exact ⟨l, u, e, [], rfl, by simp⟩

end UseLog

/-- How the stage of a session stands to the uses of its transaction. There is the work of all uses
that were answered, and none but what uses asked for; once it has failed, all later uses have. -/
def Postgres.Stage.Follows (l : UseLog) : Stage → Prop
  | .idle => False
  | .working work => l.answered.Sublist work ∧ work.Sublist l.asked
  | .failed => l.EndsInErrors

namespace Postgres.Stage.Follows

variable {stage : Stage} {l : UseLog} {u : Use} {result : Except ExecError (Option Outcome)}

/-- A use that fails before it reaches the server leaves the stage as it is. -/
theorem concat_error (h : stage.Follows l) (u : Use) (hresult : result.isOk = false) :
    stage.Follows (l ++ [(u, result)]) := by
  cases stage with
  | idle => exact h
  | working work =>
    refine ⟨?_, ?_⟩
    · rw [UseLog.answered_concat_of_not_isOk hresult]
      exact h.1
    · rw [UseLog.asked_concat]
      exact h.2.trans (List.sublist_append_left ..)
  | failed => exact UseLog.EndsInErrors.concat h hresult

/-- A use that reaches the server adds its work, or it fails and so does the transaction. -/
theorem afterStatement (h : stage.Follows l) {w : Work} (hwork : u.work? = some w)
    {succeeded : Bool} (hanswer : result.isOk = true → succeeded = true)
    (hrefused : stage = .failed → succeeded = false) :
    (stage.afterStatement w succeeded).Follows (l ++ [(u, result)]) := by
  have hfails (hserved : succeeded = false) : result.isOk = false :=
    Bool.eq_false_iff.2 fun hok => Bool.eq_false_iff.1 hserved (hanswer hok)
  cases stage with
  | idle => exact h
  | failed => exact UseLog.EndsInErrors.concat h (hfails (hrefused rfl))
  | working work =>
    cases succeeded with
    | false => exact UseLog.endsInErrors_concat l u (hfails rfl)
    | true =>
      refine ⟨?_, ?_⟩
      · cases hok : result.isOk with
        | false =>
          rw [UseLog.answered_concat_of_not_isOk hok]
          exact h.1.trans (List.sublist_append_left ..)
        | true =>
          rw [UseLog.answered_concat_of_isOk hok, hwork]
          exact h.1.append (.refl _)
      · rw [UseLog.asked_concat, hwork]
        exact h.2.append (.refl _)

/-- Nothing is lasting at once. -/
theorem workAlone_eq_nil (h : stage.Follows l) (w : Work) (succeeded : Bool) :
    stage.workAlone w succeeded = [] := by
  cases stage with
  | idle => exact h.elim
  | working work => rfl
  | failed => rfl

end Postgres.Stage.Follows

/-- Uses a transaction in turn, each time with whether blocking calls can be served then. -/
def Transaction.useAll {ς : Type} (server : Server ς) :
    List (Bool × Use) → Transaction Connection →
      SessionM (Cluster ς) (UseLog × Transaction Connection)
  | [], t => return ([], t)
  | (servesBlocking, u) :: rest, t => do
    let (result, t) ← (Operation.use u).perform (backend server servesBlocking) t
    let (later, t) ← useAll server rest t
    return ((u, result) :: later, t)

end Uses

namespace Postgres

variable {ς : Type}

section Calls

variable {server : Server ς} {stage : ς → Nat × Nat → Option Stage}
variable {committed : ς → Nat → List Work} {controls : String → Bool}
variable (hserver : server.KeepsRecords stage committed controls)
variable {c : Cluster ς}

include hserver

theorem committed_connectWithin (database left wait longest : Nat) (s : ς) :
    committed (Cluster.connectWithin server database left wait longest s).2 = committed s := by
  fun_induction Cluster.connectWithin server database left wait longest s with
  | case1 left wait s e s' hconnect _ => exact (hserver.refuse hconnect).2
  | case2 left wait s e s' hconnect _ _ => exact (hserver.refuse hconnect).2
  | case3 left wait s e s' hconnect _ _ ih => rw [ih, (hserver.refuse hconnect).2]
  | case4 left wait s hother =>
    cases hconnect : server.connect database s with
    | mk result s' =>
      cases result with
      | error e => exact absurd hconnect (hother e s')
      | ok session => exact (hserver.connect hconnect).2.2

/-- To take a session from a pool commits nothing, and the session has no transaction. -/
theorem committed_acquire (database : Nat) (pool : Pool) :
    committed (c.acquire server database pool).2.servers = committed c.servers ∧
      ∀ k, (c.acquire server database pool).1 = .ok k →
        k.database = database ∧ k.inTransaction = false := by
  unfold Cluster.acquire
  by_cases hclosed : pool.closed = true
  · rw [if_pos hclosed]
    exact ⟨rfl, fun k hk => by cases hk⟩
  by_cases htimeout : pool.acquireTimeout.millis = 0
  · rw [if_neg hclosed, if_pos htimeout]
    exact ⟨rfl, fun k hk => by cases hk⟩
  rw [if_neg hclosed, if_neg htimeout]
  cases pool.idle with
  | cons session idle =>
    refine ⟨rfl, ?_⟩
    rintro k ⟨⟩
    exact ⟨rfl, rfl⟩
  | nil =>
    by_cases hfull : pool.maxConnections ≤ pool.size
    · simp only [if_pos hfull]
      exact ⟨trivial, fun k hk => by cases hk⟩
    simp only [if_neg hfull]
    have hcommitted := committed_connectWithin hserver database pool.acquireTimeout.millis 10
      (pool.acquireTimeout.millis / 5) c.servers
    generalize Cluster.connectWithin server database pool.acquireTimeout.millis 10
      (pool.acquireTimeout.millis / 5) c.servers = r at hcommitted ⊢
    obtain ⟨result, s'⟩ := r
    cases result with
    | error e => exact ⟨hcommitted, fun k hk => by cases hk⟩
    | ok session =>
      refine ⟨hcommitted, ?_⟩
      rintro k ⟨⟩
      exact ⟨rfl, rfl⟩

/-- Nor does it to connect. -/
theorem committed_connect (servesBlocking : Bool) (calling : Calling) (database : Nat) :
    let r := (backend server servesBlocking).connect calling database c
    committed r.state.servers = committed c.servers ∧
      ∀ k, r.answer = .ok k → k.database = database ∧ k.inTransaction = false := by
  by_cases hserved : calling = .blocking ∧ !servesBlocking
  · simp only [backend, if_pos hserved]
    exact ⟨trivial, fun k hk => by cases hk⟩
  simp only [backend, if_neg hserved]
  cases hpool : c.pools[database]? with
  | none => exact ⟨rfl, fun k hk => by cases hk⟩
  | some pool =>
    obtain ⟨hcommitted, hk⟩ := committed_acquire hserver (c := c) database pool
    cases hresult : (c.acquire server database pool).1 with
    | error e =>
      simp only [hresult]
      exact ⟨hcommitted, fun k hk => by cases hk⟩
    | ok k =>
      simp only [hresult]
      refine ⟨hcommitted, ?_⟩
      rintro k' ⟨⟩
      exact hk k hresult

theorem committed_release (k : Connection) :
    committed (c.release server k).servers = committed c.servers := by
  unfold Cluster.release
  by_cases hreuse : c.canReuse server k = true
  · rw [if_pos hreuse]
    rfl
  · rw [if_neg hreuse]
    exact (hserver.disconnect k.database k.session _).1

end Calls

section Statements

variable (server : Server ς) (command : SqlCommand) (k : Connection) (c : Cluster ς)

/-- Without an error from the server there is no answer. -/
theorem isOk_of_sendStatement (read : ServerAnswer → Except Error ResultSet)
    (h : (c.sendStatement server command read k).answer.isOk = true) :
    (server.execute k.database k.session command.sql command.work.arguments
      c.servers).1.result.isOk = true := by
  cases hresult : (server.execute k.database k.session command.sql command.work.arguments
      c.servers).1.result with
  | ok answer => rfl
  | error e =>
    simp only [SqlCommand.work] at hresult
    simp only [Cluster.sendStatement, hresult] at h
    split_ifs at h <;> cases h

/-- A statement is executed on the session of its connection. -/
theorem answer_request (built : Built) :
    let r := answer server (built.request command) k c
    let executed :=
      server.execute k.database k.session command.sql command.work.arguments c.servers
    r.state.servers = executed.2 ∧ r.answer.2 = k ∧
      (r.answer.1.isOk = true → executed.1.result.isOk = true) := by
  cases built with
  | query q => exact ⟨rfl, rfl, isOk_of_sendStatement server command k c _⟩
  | command statement => exact ⟨rfl, rfl, isOk_of_sendStatement server command k c _⟩

end Statements

section Transactions

variable {server : Server ς} {stage : ς → Nat × Nat → Option Stage}
variable {committed : ς → Nat → List Work} {controls : String → Bool}

/-- The connections in use know of their transactions, no session that is idle has one, and `base`
is what is committed. -/
structure Steady (stage : ς → Nat × Nat → Option Stage) (committed : ς → Nat → List Work)
    (base : Nat → List Work) (ks : List Connection) (c : Cluster ς) : Prop where
  settled : c.IsSettled (fun s => openness (stage s)) ks
  committed_eq : committed c.servers = base

/-- What is so in the middle of a transaction, after uses with their results. Before it has begun
nothing was answered. Once it is bound, its session follows the uses. Nothing is committed before
the end. -/
def Ongoing (stage : ς → Nat × Nat → Option Stage) (committed : ς → Nat → List Work)
    (base : Nat → List Work) (log : UseLog) (c : Cluster ς) : TransactionState Connection → Prop
  | .unbound => log.answered = [] ∧ Steady stage committed base [] c
  | .bound db h => h.connection.database = db.id ∧ committed c.servers = base ∧
      ∃ st, stage c.servers h.connection.key = some st ∧ st.Follows log
  | .completed => False

variable {base : Nat → List Work} {log : UseLog} {c : Cluster ς}

/-- A use that fails before it reaches the server changes nothing. -/
theorem Ongoing.concat_error {state : TransactionState Connection}
    (h : Ongoing stage committed base log c state) (u : Use)
    {result : Except ExecError (Option Outcome)} (hresult : result.isOk = false) :
    Ongoing stage committed base (log ++ [(u, result)]) c state := by
  cases state with
  | completed => exact h
  | unbound => exact ⟨by rw [UseLog.answered_concat_of_not_isOk hresult, h.1], h.2⟩
  | bound db handle =>
    obtain ⟨hdatabase, hcommitted, st, hstage, hfollows⟩ := h
    exact ⟨hdatabase, hcommitted, st, hstage, hfollows.concat_error u hresult⟩

variable (hserver : server.KeepsRecords stage committed controls)

include hserver

/-- A connection that is opened has a session without a transaction. -/
theorem Steady.connect (h : Steady stage committed base [] c) (servesBlocking : Bool)
    (calling : Calling) (database : Nat) :
    let r := (backend server servesBlocking).connect calling database c
    (∃ e, r.answer = .error e ∧ Steady stage committed base [] r.state) ∨
      ∃ k, r.answer = .ok k ∧ k.database = database ∧
        stage r.state.servers k.key = some .idle ∧ Steady stage committed base [k] r.state := by
  have hsettled := isSettled_connect hserver.tracksTransactions servesBlocking calling database
    h.settled
  obtain ⟨hcommitted, hk⟩ := committed_connect hserver (c := c) servesBlocking calling database
  have hbase := hcommitted.trans h.committed_eq
  obtain ⟨e, hanswer, hs⟩ | ⟨k, hanswer, hs⟩ := hsettled
  · exact .inl ⟨e, hanswer, hs, hbase⟩
  · obtain ⟨hdatabase, hidle⟩ := hk k hanswer
    refine .inr ⟨k, hanswer, hdatabase, ?_, hs, hbase⟩
    have hopen := hs.inUse k List.mem_cons_self
    rw [hidle, openness, Option.map_eq_some_iff] at hopen
    obtain ⟨st, hst, hclosed⟩ := hopen
    cases st with
    | idle => exact hst
    | working work => cases hclosed
    | failed => cases hclosed

/-- A begin that succeeds starts on no work. -/
theorem Steady.begin {k : Connection} (h : Steady stage committed base [k] c)
    (hidle : stage c.servers k.key = some .idle) (servesBlocking : Bool) (calling : Calling)
    (isolation : IsolationLevel) :
    let r := (backend server servesBlocking).send calling (.begin isolation) k c
    r.answer.2.database = k.database ∧ Steady stage committed base [r.answer.2] r.state ∧
      (r.answer.1.isOk = true → stage r.state.servers r.answer.2.key = some (.working [])) := by
  intro r
  have hsettled : r.state.IsSettled (fun s => openness (stage s)) [r.answer.2] :=
    (keeps_isSettled hserver.tracksTransactions servesBlocking).send trivial h.settled
  by_cases hserved : calling = .blocking ∧ !servesBlocking
  · have hr : r = ⟨(.error Error.noRuntime.toExecError, k), c, []⟩ := by
      simp only [r, backend, if_pos hserved]
    rw [hr]
    exact ⟨rfl, h, fun hok => by cases hok⟩
  have hr : r = answer server (.begin isolation) k c := by
    simp only [r, backend, if_neg hserved]
  cases hcommand : server.command k.database k.session
      ("BEGIN ISOLATION LEVEL " ++ isolationSql isolation) c.servers with
  | mk result s' =>
    obtain ⟨hstage, hcommitted⟩ := hserver.begin hcommand
    have hservers : r.state.servers = s' := by
      simp only [hr, answer, Cluster.sendCommand, hcommand]
    refine ⟨by rw [hr]; rfl, ⟨hsettled, ?_⟩, fun hok => ?_⟩
    · rw [hservers, hcommitted, h.committed_eq]
    · have hresult : result.isOk = true := by
        rw [hr] at hok
        simp only [answer, Cluster.sendCommand, hcommand] at hok
        cases result with
        | ok _ => rfl
        | error e => cases hok
      have hkey : r.answer.2.key = k.key := by
        rw [hr]
        rfl
      rw [hservers, hstage, hkey, Connection.key, Function.update_self, ← Connection.key, hidle,
        hresult]
      rfl

theorem Steady.release {k : Connection} (h : Steady stage committed base [k] c)
    (servesBlocking : Bool) :
    Steady stage committed base [] ((backend server servesBlocking).release k c).state where
  settled := (keeps_isSettled hserver.tracksTransactions servesBlocking).release h.settled
  committed_eq := (committed_release hserver k).trans h.committed_eq

theorem Steady.triple_connect (servesBlocking : Bool) (calling : Calling) (db : Database) :
    Triple (fun s : Session (Cluster ς) => Steady stage committed base [] s.backend)
      (Session.connect (backend server servesBlocking) calling db) fun r s =>
        (∃ e, r = .error e ∧ Steady stage committed base [] s.backend) ∨
        ∃ h : Handle Connection, r = .ok h ∧ h.connection.database = db.id ∧
          stage s.backend.servers h.connection.key = some .idle ∧
          Steady stage committed base [h.connection] s.backend := by
  refine Session.triple_connect ?_ ?_
  · intro s e hs hanswer
    obtain ⟨e', -, hs'⟩ | ⟨k, hok, -⟩ := hs.connect hserver servesBlocking calling db.id
    · exact .inl ⟨e, rfl, hs'⟩
    · rw [hok] at hanswer
      cases hanswer
  · intro s k hs hanswer
    obtain ⟨e', herror, -⟩ | ⟨k', hok, hdatabase, hidle, hs'⟩ :=
      hs.connect hserver servesBlocking calling db.id
    · rw [herror] at hanswer
      cases hanswer
    · rw [hok] at hanswer
      cases hanswer
      exact .inr ⟨_, rfl, hdatabase, hidle, hs'⟩

theorem Steady.triple_begin (servesBlocking : Bool) (calling : Calling) (isolation : IsolationLevel)
    (h : Handle Connection) :
    Triple (fun s : Session (Cluster ς) => stage s.backend.servers h.connection.key = some .idle ∧
        Steady stage committed base [h.connection] s.backend)
      (Session.send (backend server servesBlocking) calling (.begin isolation) h) fun r s =>
        r.2.connection.database = h.connection.database ∧
        Steady stage committed base [r.2.connection] s.backend ∧
        (r.1.isOk = true →
          stage s.backend.servers r.2.connection.key = some (.working [])) := by
  refine Session.triple_send ?_
  rintro s ⟨hidle, hs⟩
  exact hs.begin hserver hidle servesBlocking calling isolation

/-- A transaction that is started has begun on a session without work; otherwise nothing has
happened. -/
theorem Steady.triple_start (servesBlocking : Bool) (calling : Calling) (db : Database)
    (t : Transaction Connection) :
    Triple (fun s : Session (Cluster ς) => Steady stage committed base [] s.backend)
      (t.start (backend server servesBlocking) calling db) fun r s =>
        (∃ e, r = .error e ∧ Steady stage committed base [] s.backend) ∨
        ∃ h, r = .ok h ∧ h.connection.database = db.id ∧ committed s.backend.servers = base ∧
          stage s.backend.servers h.connection.key = some (.working []) := by
  refine (Steady.triple_connect hserver servesBlocking calling db).bind fun r =>
    .of_or (.of_exists fun e => .of_fact ?_) (.of_exists fun h => .of_fact ?_)
  · rintro rfl
    exact .pure fun s hs => .inl ⟨e, rfl, hs⟩
  rintro rfl
  refine Triple.of_fact fun hdatabase => ?_
  refine (Steady.triple_begin hserver servesBlocking calling t.isolation h).bind ?_
  rintro ⟨answer, h'⟩
  refine Triple.of_fact fun hsame => ?_
  cases answer with
  | error e =>
    refine (Session.triple_release (Q := fun _ s => Steady stage committed base [] s.backend)
      fun s hs => hs.1.release hserver servesBlocking).bind fun _ => ?_
    exact .pure fun s hs => .inl ⟨e, rfl, hs⟩
  | ok answer =>
    refine (Session.triple_log (Session.unobserved_backend fun c : Cluster ς => Steady stage
      committed base [h'.connection] c ∧ ((Except.ok answer : Except ExecError ResultSet).isOk =
        true → stage c.servers h'.connection.key = some (.working []))) _).bind fun _ => ?_
    exact .pure fun s hs => .inr ⟨h', rfl, hsame.trans hdatabase, hs.1.committed_eq, hs.2 rfl⟩

/-- A statement that is sent within a transaction is added to its work, or spoils it. -/
theorem Ongoing.send {db : Database} {h : Handle Connection}
    (hongoing : Ongoing stage committed base log c (.bound db h)) {u : Use} {command : SqlCommand}
    (hwork : u.work? = some command.work) (hcontrols : controls command.sql = false)
    (built : Built) (servesBlocking : Bool) (calling : Calling) :
    let r := (backend server servesBlocking).send calling (built.request command) h.connection c
    ∀ result : Except ExecError (Option Outcome),
      (result.isOk = true → r.answer.1.isOk = true) →
        Ongoing stage committed base (log ++ [(u, result)]) r.state
          (.bound db { h with connection := r.answer.2 }) := by
  intro r result hresult
  by_cases hserved : calling = .blocking ∧ !servesBlocking
  · have hr : r = ⟨(.error Error.noRuntime.toExecError, h.connection), c, []⟩ := by
      simp only [r, backend, if_pos hserved]
    rw [hr] at hresult ⊢
    exact hongoing.concat_error u (Bool.eq_false_iff.2 fun hok => by cases hresult hok)
  have hr : r = answer server (built.request command) h.connection c := by
    simp only [r, backend, if_neg hserved]
  obtain ⟨hservers, hconnection, hanswer⟩ := answer_request server command h.connection c built
  rw [← hr] at hservers hconnection hanswer
  have haborted : stage c.servers h.connection.key = some .failed →
      (server.execute h.connection.database h.connection.session command.sql
        command.work.arguments c.servers).1.result.isOk = false :=
    hserver.refuseFailed command.work.arguments hcontrols
  generalize hexecute : server.execute h.connection.database h.connection.session command.sql
    command.work.arguments c.servers = executed at hservers hanswer haborted
  obtain ⟨served, s'⟩ := executed
  obtain ⟨hstage', hcommitted'⟩ := hserver.execute hcontrols hexecute
  obtain ⟨hdatabase, hcommitted, st, hstage, hfollows⟩ := hongoing
  have hnext := hfollows.afterStatement hwork (fun hok => hanswer (hresult hok))
    fun hfailed => haborted (hfailed ▸ hstage)
  have hcurrent : stage c.servers (h.connection.database, h.connection.session) = some st := hstage
  rw [hcurrent] at hstage' hcommitted'
  rw [hconnection]
  refine ⟨hdatabase, ?_, _, ?_, hnext⟩
  · rw [hservers, hcommitted', Option.elim_some]
    simp only [hfollows.workAlone_eq_nil]
    rw [List.append_nil, Function.update_eq_self, hcommitted]
  · rw [hservers, hstage', Connection.key, Function.update_self]
    rfl

/-- A request within a transaction, whatever is then made of its answer. -/
theorem Ongoing.triple_send {u : Use} {command : SqlCommand} (hwork : u.work? = some command.work)
    (hcontrols : controls command.sql = false) (built : Built) (servesBlocking : Bool)
    (calling : Calling) (db : Database) (t : Transaction Connection) :
    Triple (fun s : Session (Cluster ς) => Ongoing stage committed base log s.backend t.state)
      (t.send (backend server servesBlocking) calling db (built.request command)) fun r s =>
        ∀ result : Except ExecError (Option Outcome),
          (result.isOk = true → r.1.isOk = true) →
            Ongoing stage committed base (log ++ [(u, result)]) s.backend r.2.state := by
  obtain ⟨isolation, state⟩ := t
  -- a request that is refused has no answer, so its result is an error
  have hrefused {e : ExecError} {s : Session (Cluster ς)} {state : TransactionState Connection}
      (hs : Ongoing stage committed base log s.backend state)
      (result : Except ExecError (Option Outcome))
      (hresult : result.isOk = true → (Except.error e : Except ExecError ResultSet).isOk = true) :
      Ongoing stage committed base (log ++ [(u, result)]) s.backend state := by
    exact hs.concat_error u (Bool.eq_false_iff.2 fun hok => by cases hresult hok)
  cases state with
  | completed => exact .pure fun s hs => hs.elim
  | bound bound h =>
    cases hsame : bound.sameAs db with
    | false =>
      simp only [Transaction.send, hsame]
      exact .pure fun s hs => hrefused hs
    | true =>
      simp only [Transaction.send, hsame]
      exact (Session.triple_send fun s hs => hs.send hserver hwork hcontrols built servesBlocking
        calling).bind fun r => .pure fun s hs => hs
  | unbound =>
    refine Triple.of_fact fun hanswered => ?_
    refine (Steady.triple_start hserver servesBlocking calling db ⟨isolation, .unbound⟩).bind
      fun r => .of_or (.of_exists fun e => .of_fact ?_) (.of_exists fun h => .of_fact ?_)
    · rintro rfl
      exact .pure fun s hs => hrefused ⟨hanswered, hs⟩
    · rintro rfl
      refine (Session.triple_send fun s hs => ?_).bind fun r => .pure fun s hs => hs
      obtain ⟨hdatabase, hcommitted, hstage⟩ := hs
      have hs : Ongoing stage committed base log s.backend (.bound db h) :=
        ⟨hdatabase, hcommitted, _, hstage, hanswered ▸ .slnil, List.nil_sublist _⟩
      exact hs.send hserver hwork hcontrols built servesBlocking calling

/-- One use of a transaction. -/
theorem Ongoing.triple_use {u : Use} (hu : ∃ built, u.statement.IsSound built)
    (servesBlocking : Bool) (t : Transaction Connection) :
    Triple (fun s : Session (Cluster ς) => Ongoing stage committed base log s.backend t.state)
      ((Operation.use u).perform (backend server servesBlocking) t) fun r s =>
        Ongoing stage committed base (log ++ [(u, r.1)]) s.backend r.2.state := by
  -- the condition after the execution, before its result is wrapped
  let Q (r : Except ExecError Outcome × Option (Transaction Connection)) (c : Cluster ς) : Prop :=
    ∃ t, r.2 = some t ∧ Ongoing stage committed base (log ++ [(u, r.1.map some)]) c t.state
  refine (Executable.triple_execute
    (Session.unobserved_backend fun c => Ongoing stage committed base log c t.state)
    (fun r => Session.unobserved_backend (Q r)) ?_ ?_).bind ?_
  · intro e s _ hs
    exact ⟨t, rfl, hs.concat_error u rfl⟩
  · intro command hcommand
    obtain ⟨built, hsound⟩ := hu
    have hwork : u.work? = some command.work := by
      rw [Use.work?, hcommand]
      rfl
    have hcontrols : controls command.sql = false := by
      rw [hsound.sql_of_command hcommand]
      exact admitsRenderings hserver.tracksTransactions ..
    refine (Ongoing.triple_send hserver hwork hcontrols u.statement.built servesBlocking u.calling
      u.database t).bind fun r => .pure fun s hs => ⟨r.2, rfl, hs _ fun hok => ?_⟩
    obtain ⟨answer, t'⟩ := r
    cases answer with
    | error e => cases hok
    | ok answer => rfl
  · rintro ⟨result, t?, q⟩
    refine .of_fact fun _ => .of_exists fun t' => .of_fact fun ht' => ?_
    obtain rfl : t? = some t' := ht'
    exact .pure fun s hs => hs

/-- All uses of a transaction, one after the other. -/
theorem Ongoing.triple_useAll {uses : List (Bool × Use)}
    (huses : ∀ step ∈ uses, ∃ built, step.2.statement.IsSound built) (t : Transaction Connection) :
    Triple (fun s : Session (Cluster ς) => Ongoing stage committed base log s.backend t.state)
      (t.useAll server uses) fun r s =>
        r.1.map Prod.fst = uses.map Prod.snd ∧
          Ongoing stage committed base (log ++ r.1) s.backend r.2.state := by
  induction uses generalizing t log with
  | nil => exact .pure fun s hs => ⟨rfl, by rwa [List.append_nil]⟩
  | cons step uses ih =>
    obtain ⟨hstep, huses⟩ := List.forall_mem_cons.1 huses
    refine (Ongoing.triple_use hserver hstep step.1 t).bind fun first => ?_
    refine (ih huses first.2).bind fun later => .pure fun s hs => ⟨?_, ?_⟩
    · simp [hs.1]
    · simpa using hs.2

/-- A commit that is answered makes the work of its session lasting. -/
theorem committed_commit (k : Connection) (servesBlocking : Bool) (calling : Calling) :
    let r := (backend server servesBlocking).send calling .commit k c
    r.answer.1.isOk = true → committed r.state.servers =
      Function.update (committed c.servers) k.database
        (committed c.servers k.database ++ (stage c.servers k.key).elim [] Stage.work) := by
  intro r hok
  by_cases hserved : calling = .blocking ∧ !servesBlocking
  · simp only [r, backend, if_pos hserved] at hok
    cases hok
  have hr : r = answer server .commit k c := by simp only [r, backend, if_neg hserved]
  rw [hr] at hok ⊢
  cases hcommand : server.command k.database k.session "COMMIT" c.servers with
  | mk result s' =>
    simp only [answer, Cluster.sendCommand, hcommand] at hok ⊢
    cases result with
    | error e => cases hok
    | ok _ => exact (hserver.commit hcommand).2 rfl

/-- What is so after the commit that is sent is so after the transaction has ended. -/
theorem triple_finish_commit {db : Database} {h : Handle Connection} {after : Nat → List Work}
    {P : Session (Cluster ς) → Prop} {servesBlocking : Bool} {calling : Calling}
    (hsend : Triple P (Session.send (backend server servesBlocking) calling .commit h) fun r s =>
      r.1.isOk = true → committed s.backend.servers = after) (isolation : IsolationLevel) :
    Triple P (({ isolation, state := .bound db h } : Transaction Connection).finish
        (backend server servesBlocking) calling .commit) fun r s =>
          r.1.isOk = true → committed s.backend.servers = after := by
  have hrelease (h' : Handle Connection) :
      Triple (fun s : Session (Cluster ς) => committed s.backend.servers = after)
        (Session.release (backend server servesBlocking) h')
        fun _ s => committed s.backend.servers = after :=
    Session.triple_release fun s hs => (committed_release hserver h'.connection).trans hs
  refine hsend.bind ?_
  rintro ⟨answer, h'⟩
  cases answer with
  | error e =>
    refine (Session.triple_release (Q := fun _ _ => True) fun _ _ => trivial).bind fun _ => ?_
    exact .pure fun s _ hok => by cases hok
  | ok answer =>
    refine ((Session.triple_log (Session.unobserved_backend fun c : Cluster ς =>
      committed c.servers = after) _).weaken (fun s hs => hs rfl) fun _ _ hs => hs).bind
      fun _ => (hrelease h').bind fun _ => ?_
    exact .pure fun s hs _ => hs

theorem triple_commit {db : Database} {h : Handle Connection}
    (hdatabase : h.connection.database = db.id) (isolation : IsolationLevel)
    (servesBlocking : Bool) (calling : Calling) :
    Triple (fun s : Session (Cluster ς) => s.backend = c)
      (({ isolation, state := .bound db h } : Transaction Connection).finish
        (backend server servesBlocking) calling .commit) fun r s =>
          r.1.isOk = true → committed s.backend.servers =
            Function.update (committed c.servers) db.id (committed c.servers db.id ++
              (stage c.servers h.connection.key).elim [] Stage.work) := by
  refine triple_finish_commit hserver (Session.triple_send ?_) isolation
  rintro s rfl r hok
  have hkept := committed_commit hserver h.connection servesBlocking calling hok
  rwa [hdatabase] at hkept

end Transactions

section Runs

variable {server : Server ς} {stage : ς → Nat × Nat → Option Stage}
variable {committed : ς → Nat → List Work} {controls : String → Bool}

/-- Take a transaction over pools whose idle sessions have no transactions. It is used in any way,
and then a commit of it succeeds. If it was never bound, no use was answered, and nothing is
committed. If it was, what is committed in its database is the work of its session, which is what
uses asked for: all that was answered, unless its session has failed. In that case a use has failed,
with all after it, and nothing is committed: then what was answered is kept only if that was
nothing. -/
theorem commit_keeps_answered_work_iff (hserver : server.KeepsRecords stage committed controls)
    {s : Session (Cluster ς)} (hpools : s.backend.IsSettled (fun s => openness (stage s)) [])
    (isolation : IsolationLevel) {uses : List (Bool × Use)}
    (huses : ∀ step ∈ uses, ∃ built, step.2.statement.IsSound built)
    (servesBlocking : Bool) (calling : Calling) :
    let used := ((Transaction.useAll server uses { isolation }).run s)
    let t := used.1.2
    let ended := (t.finish (backend server servesBlocking) calling .commit).run used.2
    let before := committed s.backend.servers
    let after := committed ended.2.backend.servers
    used.1.1.map Prod.fst = uses.map Prod.snd ∧
    (ended.1.1.isOk = true →
      (t.isOpen = false → used.1.1.answered = [] ∧ after = before) ∧
      ∀ db h, t.state = .bound db h →
        ∃ st, stage used.2.backend.servers h.connection.key = some st ∧ st.isOpen = true ∧
          after = Function.update before db.id (before db.id ++ st.work) ∧
          st.work.Sublist used.1.1.asked ∧
          (used.1.1.answered.Sublist st.work ↔ (st = .failed → used.1.1.answered = [])) ∧
          (st = .failed → used.1.1.EndsInErrors)) := by
  intro used t ended before after
  have hongoing : Ongoing stage committed before [] s.backend .unbound := ⟨rfl, hpools, rfl⟩
  obtain ⟨hlog, hused⟩ := Ongoing.triple_useAll hserver huses { isolation } s hongoing
  rw [List.nil_append] at hused
  change Ongoing stage committed before used.1.1 used.2.backend t.state at hused
  refine ⟨hlog, fun hok => ⟨fun hclosed => ?_, fun db h hstate => ?_⟩⟩
  · cases hstate : t.state with
    | completed =>
      rw [hstate] at hused
      exact hused.elim
    | bound db h => simp [Transaction.isOpen, hstate] at hclosed
    | unbound =>
      rw [hstate] at hused
      have hended : ended.2 = used.2 := by
        simp only [ended, Transaction.finish, hstate]
        rfl
      refine ⟨hused.1, ?_⟩
      rw [← hused.2.committed_eq, ← hended]
  · rw [hstate] at hused
    obtain ⟨hdatabase, hcommitted, st, hstage, hfollows⟩ := hused
    have ht : t = { isolation := t.isolation, state := .bound db h } := by rw [← hstate]
    have hafter := triple_commit hserver hdatabase t.isolation servesBlocking calling used.2 rfl
    rw [← ht] at hafter
    have hafter := hafter hok
    rw [hcommitted, hstage, Option.elim_some] at hafter
    cases st with
    | idle => exact hfollows.elim
    | working work =>
      have hworks : Stage.working work ≠ .failed := by simp
      exact ⟨.working work, hstage, rfl, hafter, hfollows.2,
        ⟨fun _ hfailed => absurd hfailed hworks, fun _ => hfollows.1⟩,
        fun hfailed => absurd hfailed hworks⟩
    | failed =>
      refine ⟨.failed, hstage, rfl, hafter, List.nil_sublist _, ⟨?_, ?_⟩, fun _ => hfollows⟩
      · exact fun hnone _ => List.sublist_nil.1 hnone
      · exact fun hnone => List.sublist_nil.2 (hnone rfl)

end Runs

section Books

/-- The stages of all sessions and the work that is committed in each database. -/
structure Books where
  opened : Nat := 0
  stages : Nat × Nat → Option Stage := fun _ => none
  committed : Nat → List Work := fun _ => []

namespace Books

/-- Takes down what a session does: what becomes of its stage, and what is lasting by it. -/
def note (database session : Nat) (stage : Stage → Stage) (lasting : Stage → List Work)
    (b : Books) : Books :=
  let current? := b.stages (database, session)
  { b with
    stages := Function.update b.stages (database, session) (current?.map stage)
    committed :=
      Function.update b.committed database (b.committed database ++ current?.elim [] lasting) }

/-- A server that keeps books and refuses some statements. -/
def server (refuses : Work → Bool) : Server Books where
  connect database b :=
    match b.stages (database, b.opened) with
    | some _ => (.error .refused, b)
    | none =>
      (.ok b.opened,
        { b with
          opened := b.opened + 1
          stages := Function.update b.stages (database, b.opened) (some .idle) })
  command database session sql b :=
    if Ledger.begins sql then
      (.ok (), b.note database session (·.afterBegin true) fun _ => [])
    else
      (.ok (), b.note database session (fun _ => .idle) fun st =>
        if sql = "COMMIT" then st.work else [])
  execute database session sql arguments b :=
    let w : Work := ⟨sql, arguments⟩
    let succeeds := decide (b.stages (database, session) ≠ some .failed) && !refuses w
    (⟨⟨0⟩, if succeeds then .ok {} else .error (.database ⟨"refused", ""⟩)⟩,
      b.note database session (·.afterStatement w succeeds) (·.workAlone w succeeds))
  isAlive database session b := (b.stages (database, session)).isSome
  disconnect database session b :=
    { b with stages := Function.update b.stages (database, session) none }

theorem committed_note_nil (database session : Nat) (stage : Stage → Stage) (b : Books) :
    (b.note database session stage fun _ => []).committed = b.committed := by
  cases h : b.stages (database, session) <;> simp [note, h]

theorem keepsRecords (refuses : Work → Bool) :
    (server refuses).KeepsRecords Books.stages Books.committed Ledger.controls where
  connect := by
    intro database session b b' h
    simp only [server] at h
    split at h
    · cases h
    · next hnone =>
      cases h
      exact ⟨hnone, rfl, rfl⟩
  refuse := by
    intro database e b b' h
    simp only [server] at h
    split at h
    · cases h
      exact ⟨rfl, rfl⟩
    · cases h
  begin := by
    intro database session level result b b' h
    have hbegins : Ledger.begins ("BEGIN ISOLATION LEVEL " ++ level) = true := by
      simp [Ledger.begins, String.toList_append, List.isPrefixOf]
    simp only [server, hbegins, if_true] at h
    cases h
    exact ⟨rfl, committed_note_nil ..⟩
  commit := by
    intro database session result b b' h
    have hbegins : Ledger.begins "COMMIT" = false := by decide
    simp only [server, hbegins] at h
    cases h
    exact ⟨rfl, fun _ => rfl⟩
  rollback := by
    intro database session result b b' h
    have hbegins : Ledger.begins "ROLLBACK" = false := by decide
    simp only [server, hbegins] at h
    cases h
    exact ⟨rfl, committed_note_nil ..⟩
  execute := by
    intro database session sql arguments served b b' _ h
    simp only [server] at h
    generalize (decide (b.stages (database, session) ≠ some .failed) &&
      !refuses ⟨sql, arguments⟩) = succeeds at h
    cases h
    cases succeeds <;> exact ⟨rfl, rfl⟩
  refuseFailed := by
    intro database session sql arguments b _ h
    simp [server, h, Except.isOk, Except.toBool]
  disconnect := by
    intro database session b
    exact ⟨rfl, fun other hother => by simp [server, hother]⟩
  openings := Ledger.controls_opening

/-- One database with a pool of one connection, which is not open yet. -/
def sessionWithOnePool : Session (Cluster Books) where
  backend := { pools := [⟨1, ⟨20000⟩, none, [], 0, false⟩], servers := {} }

/-- A new invoice with a number. -/
def useOfInvoice (number : Int32) : Use where
  statement :=
    let invoices : Table := ⟨none, "Invoice", false, ⟨0, 0⟩⟩
    { built := .command ⟨.insert
        { table := invoices
          assignments := [⟨⟨invoices, "Id", false, .int⟩, .value .int (.int number)⟩] }⟩ }
  database := { id := 0, name := "main", dialect := .postgres }

/-- What the server gets for it. -/
def workOfInvoice (number : Int32) : Work :=
  ⟨"INSERT INTO \"Invoice\"(\"Id\") VALUES($1)", [.value ⟨.int32, number⟩]⟩

def usesOfInvoices : List (Bool × Use) := [(true, useOfInvoice 1), (true, useOfInvoice 2)]

/-- A transaction that adds two invoices, the second of which may be refused. -/
def usedForInvoices (refuses : Work → Bool) :
    (UseLog × Transaction Connection) × Session (Cluster Books) :=
  (Transaction.useAll (server refuses) usesOfInvoices {}).run sessionWithOnePool

/-- Its commit. -/
def endedWithInvoices (refuses : Work → Bool) :
    (Except ExecError Unit × Transaction Connection) × Session (Cluster Books) :=
  let used := usedForInvoices refuses
  (used.1.2.finish (backend (server refuses) true) .blocking .commit).run used.2

/-- The database that a transaction is bound to. -/
def boundTo? (t : Transaction Connection) : Option Nat :=
  match t.state with
  | .bound db _ => some db.id
  | _ => none

theorem exists_of_boundTo?_eq_some {t : Transaction Connection} {database : Nat}
    (h : boundTo? t = some database) :
    ∃ db handle, t.state = .bound db handle ∧ db.id = database := by
  rw [boundTo?] at h
  cases hstate : t.state with
  | bound db handle =>
    rw [hstate] at h
    exact ⟨db, handle, rfl, Option.some.inj h⟩
  | unbound => simp [hstate] at h
  | completed => simp [hstate] at h

theorem isSettled_sessionWithOnePool :
    sessionWithOnePool.backend.IsSettled (fun b => openness b.stages) [] :=
  ⟨by decide, by simp, by decide⟩

/-- Where nothing is refused, a commit that succeeds keeps both invoices. -/
theorem committed_endedWithInvoices :
    (endedWithInvoices fun _ => false).1.1.isOk = true ∧
      (usedForInvoices fun _ => false).1.1.answered = [workOfInvoice 1, workOfInvoice 2] ∧
      ((endedWithInvoices fun _ => false).2.backend.servers.committed 0) =
        [workOfInvoice 1, workOfInvoice 2] := by
  have huses : ∀ step ∈ usesOfInvoices, ∃ built, step.2.statement.IsSound built := by
    simp only [usesOfInvoices, List.forall_mem_cons]
    exact ⟨⟨_, rfl, .empty _⟩, ⟨_, rfl, .empty _⟩, by simp⟩
  have hok : (endedWithInvoices fun _ => false).1.1.isOk = true := by decide +kernel
  obtain ⟨-, hended⟩ := commit_keeps_answered_work_iff (keepsRecords fun _ => false)
    isSettled_sessionWithOnePool .readCommitted huses true .blocking
  have hlog : ∀ entry ∈ (usedForInvoices fun _ => false).1.1, entry.2.isOk = true := by
    decide +kernel
  have hanswered : (usedForInvoices fun _ => false).1.1.answered =
      [workOfInvoice 1, workOfInvoice 2] := by decide +kernel
  have hasked : (usedForInvoices fun _ => false).1.1.asked =
      [workOfInvoice 1, workOfInvoice 2] := by decide +kernel
  have hbound : boundTo? (usedForInvoices fun _ => false).1.2 = some 0 := by decide +kernel
  obtain ⟨db, h, hstate, hid⟩ := exists_of_boundTo?_eq_some hbound
  obtain ⟨st, -, -, hafter, hwork, hkeeps, herrors⟩ := (hended hok).2 db h hstate
  have hst : st ≠ .failed := by
    intro hfailed
    obtain ⟨before, u, e, after, hl, -⟩ := herrors hfailed
    have hmem : (u, .error e) ∈ (usedForInvoices fun _ => false).1.1 :=
      hl ▸ List.mem_append_right _ List.mem_cons_self
    cases hlog _ hmem
  have hkept : (usedForInvoices fun _ => false).1.1.answered.Sublist st.work :=
    hkeeps.2 fun hfailed => absurd hfailed hst
  have hwork : st.work.Sublist (usedForInvoices fun _ => false).1.1.asked := hwork
  rw [hanswered] at hkept
  rw [hasked] at hwork
  refine ⟨hok, hanswered, ?_⟩
  rw [← hwork.antisymm hkept]
  rw [hid] at hafter
  exact (congrFun hafter 0).trans (Function.update_self ..)

/-- A commit succeeds though the server rolls back: the second invoice was refused, and the first
one, which was answered, is lost. -/
theorem commit_loses_answered_invoice :
    (server (· = workOfInvoice 2)).KeepsRecords Books.stages Books.committed Ledger.controls ∧
    sessionWithOnePool.backend.IsSettled (fun b => openness b.stages) [] ∧
    (usedForInvoices (· = workOfInvoice 2)).1.2.isOpen = true ∧
    (endedWithInvoices (· = workOfInvoice 2)).1.1.isOk = true ∧
    (usedForInvoices (· = workOfInvoice 2)).1.1.answered = [workOfInvoice 1] ∧
    (endedWithInvoices (· = workOfInvoice 2)).2.backend.servers.committed 0 = [] := by
  exact ⟨keepsRecords _, isSettled_sessionWithOnePool, by decide +kernel, by decide +kernel,
    by decide +kernel, by decide +kernel⟩

end Books

end Books

end Postgres

end TypedSql
