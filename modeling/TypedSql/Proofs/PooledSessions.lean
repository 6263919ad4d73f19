import TypedSql.Postgres.Pool
import TypedSql.Proofs.Openings
import TypedSql.Proofs.Ownership
import Mathlib.Logic.Function.Basic
/-!
# Transactions on pooled sessions

A connection is marked while it has a transaction, and one that is marked is closed instead of going
back to its pool. The marks follow the requests to begin and to end a transaction. They are right
along every run of an application, whatever the server refuses and whichever calls cannot be served,
if and only if no statement that is sent on a connection of its own begins or ends a transaction.
Along such a run no session comes back to its pool with a transaction, and every session that is
handed out has none.

## Main definitions

- `Postgres.Server.TracksTransactions`, `Postgres.Server.SeparatesSessions`: what is assumed of
  servers.
- `Postgres.Connection.key`, `Postgres.Cluster.idleSessions`: the session of a connection, and those
  that are not in use.
- `Postgres.Cluster.IsSettled`: the connections know of their transactions, and no session that is
  idle has one.
- `Postgres.MarksTransactions`, `Postgres.LeavesTransactions`: the marks are right, and a statement
  leaves the transactions alone.

## Main statements

- `Postgres.Cluster.IsSettled.acquire`, `Postgres.Cluster.IsSettled.release`,
  `Postgres.Cluster.IsSettled.answer`, `Postgres.Cluster.IsSettled.addPool`: what each call keeps.
- `Postgres.owns_runAction`, `Postgres.owns_runActions`: what an action keeps, and so a whole run.
- `Postgres.marks_follow_transactions_iff`: when the marks are right along a run.
-/

namespace TypedSql.Postgres

variable {ς : Type}

/-- What is assumed of servers. The status of a session is none if it is not open, and otherwise
whether a transaction is. Some statements control transactions; those that a builder makes do not.
-/
structure Server.TracksTransactions (server : Server ς) (status : ς → Nat × Nat → Option Bool)
    (controls : String → Bool) : Prop where
  /-- A session that is opened is a new one, without a transaction. -/
  connect : ∀ {database session s s'}, server.connect database s = (.ok session, s') →
    status s (database, session) = none ∧
      status s' = Function.update (status s) (database, session) (some false)
  refuse : ∀ {database e s s'}, server.connect database s = (.error e, s') → status s' = status s
  /-- A begin that fails opens no transaction. -/
  begin : ∀ {database session level result s s'},
    server.command database session ("BEGIN ISOLATION LEVEL " ++ level) s = (result, s') →
    status s' = Function.update (status s) (database, session)
      ((status s (database, session)).map (· || result.isOk))
  /-- An end that arrives ends the transaction, whatever the answer. -/
  finish : ∀ {database session sql result s s'}, sql = "COMMIT" ∨ sql = "ROLLBACK" →
    server.command database session sql s = (result, s') →
    status s' = Function.update (status s) (database, session)
      ((status s (database, session)).map fun _ => false)
  execute : ∀ {database session sql} (arguments s), controls sql = false →
    status (server.execute database session sql arguments s).2 = status s
  disconnect : ∀ {database session} s, ∀ other ≠ (database, session),
    status (server.disconnect database session s) other = status s other
  openings : ∀ word ∈ statementOpenings, ∀ rest, controls (word ++ rest) = false

/-- A statement may do to the transaction of its session what it likes, but nothing to those of
other sessions. -/
def Server.SeparatesSessions (server : Server ς) (status : ς → Nat × Nat → Option Bool) : Prop :=
  ∀ database session sql arguments s, ∀ other ≠ (database, session),
    status (server.execute database session sql arguments s).2 other = status s other

/-- The session of the connection. -/
def Connection.key (k : Connection) : Nat × Nat := (k.database, k.session)

namespace Cluster

/-- The sessions that are not in use, with their databases. -/
def idleSessions (c : Cluster ς) : List (Nat × Nat) :=
  (c.pools.mapIdx fun database pool => pool.idle.map (database, ·)).flatten

/-- Every connection in use knows whether a transaction is open on its session, and no session that
is idle has one. All these sessions are different. -/
structure IsSettled (status : ς → Nat × Nat → Option Bool) (ks : List Connection) (c : Cluster ς) :
    Prop where
  nodup : (ks.map Connection.key ++ c.idleSessions).Nodup
  inUse : ∀ k ∈ ks, status c.servers k.key = some k.inTransaction
  idle : ∀ key ∈ c.idleSessions, status c.servers key = some false

section Pools

variable {c : Cluster ς} {database : Nat} {pool : Pool}

/-- The idle sessions of a pool stand apart from those of the others. -/
theorem perm_idleSessions (h : c.pools[database]? = some pool) :
    ∃ rest, (c.idleSessions).Perm (pool.idle.map (database, ·) ++ rest) ∧
      ∀ f, ((c.updatePool database f).idleSessions).Perm
        ((f pool).idle.map (database, ·) ++ rest) := by
  let sessionsOf (database : Nat) (pool : Pool) : List (Nat × Nat) := pool.idle.map (database, ·)
  obtain ⟨hlt, hpool⟩ := List.getElem?_eq_some_iff.1 h
  have hentry : (c.pools.mapIdx sessionsOf)[database]? = some (sessionsOf database pool) := by
    rw [List.getElem?_mapIdx, h]
    rfl
  have hupdate (f : Pool → Pool) : (c.pools.modify database f).mapIdx sessionsOf =
      (c.pools.mapIdx sessionsOf).set database (sessionsOf database (f pool)) := by
    refine List.ext_getElem? fun n => ?_
    rw [List.getElem?_mapIdx, List.getElem?_modify, List.getElem?_set, List.getElem?_mapIdx,
      List.length_mapIdx]
    by_cases hn : database = n
    · subst hn
      simp [hlt, hpool]
    · simp [hn]
  refine ⟨((c.pools.mapIdx sessionsOf).eraseIdx database).flatMap id, ?_, fun f => ?_⟩
  · have hperm := perm_flatMap_of_getElem? hentry id
    rw [List.flatMap_id] at hperm
    exact hperm
  · have hperm := perm_flatMap_set hentry (sessionsOf database (f pool)) id
    rw [← hupdate f, List.flatMap_id] at hperm
    exact hperm

/-- Other changes of a pool leave the idle sessions as they are. -/
theorem idleSessions_updatePool {f : Pool → Pool} (hf : ∀ pool, (f pool).idle = pool.idle) :
    (c.updatePool database f).idleSessions = c.idleSessions := by
  rw [idleSessions, idleSessions, updatePool]
  congr 1
  refine List.ext_getElem? fun n => ?_
  rw [List.getElem?_mapIdx, List.getElem?_mapIdx, List.getElem?_modify]
  by_cases hn : database = n
  · simp [hn, hf, Function.comp_def]
  · simp [hn]

/-- A session that is given back is one more. -/
theorem perm_giveBack {k : Connection} (h : c.pools[k.database]? = some pool) :
    ((c.updatePool k.database fun pool =>
        { pool with idle := pool.idle ++ [k.session] }).idleSessions).Perm
      (k.key :: c.idleSessions) := by
  obtain ⟨rest, hbefore, hafter⟩ := perm_idleSessions h
  refine (hafter _).trans ?_
  rw [List.map_append, List.append_assoc]
  exact List.perm_middle.trans (hbefore.symm.cons _)

theorem inTransaction_of_canReuse {server : Server ς} {k : Connection}
    (h : c.canReuse server k = true) :
    k.inTransaction = false ∧ ∃ pool, c.pools[k.database]? = some pool := by
  simp only [canReuse, Bool.and_eq_true, Bool.not_eq_true'] at h
  obtain ⟨⟨hk, -⟩, hopen⟩ := h
  cases hpool : c.pools[k.database]? with
  | none => simp [hpool] at hopen
  | some pool => exact ⟨hk, pool, rfl⟩

end Pools

namespace IsSettled

variable {status : ς → Nat × Nat → Option Bool} {ks ks' : List Connection} {k k' : Connection}
variable {c c' : Cluster ς}

theorem perm (hperm : ks.Perm ks') (h : IsSettled status ks c) : IsSettled status ks' c where
  nodup := ((hperm.map _).append_right _).nodup_iff.1 h.nodup
  inUse k hk := h.inUse k (hperm.mem_iff.2 hk)
  idle := h.idle

/-- A connection in use is one that knows of its transaction and has a session of its own. -/
theorem iff_cons : IsSettled status (k :: ks) c ↔ IsSettled status ks c ∧
    k.key ∉ ks.map Connection.key ++ c.idleSessions ∧
      status c.servers k.key = some k.inTransaction := by
  constructor
  · intro h
    obtain ⟨hkey, hnodup⟩ := List.nodup_cons.1 h.nodup
    exact ⟨⟨hnodup, fun k hk => h.inUse k (List.mem_cons_of_mem _ hk), h.idle⟩, hkey,
      h.inUse k List.mem_cons_self⟩
  · rintro ⟨h, hkey, hstatus⟩
    exact ⟨List.nodup_cons.2 ⟨hkey, h.nodup⟩, List.forall_mem_cons.2 ⟨hstatus, h.inUse⟩, h.idle⟩

/-- What is done to other sessions does not matter. -/
theorem of_eqOn (h : IsSettled status ks c) (hidle : c'.idleSessions = c.idleSessions)
    (hservers : ∀ key ∈ ks.map Connection.key ++ c.idleSessions,
      status c'.servers key = status c.servers key) : IsSettled status ks c' where
  nodup := by
    rw [hidle]
    exact h.nodup
  inUse k hk := by
    rw [hservers k.key (List.mem_append_left _ (List.mem_map_of_mem hk))]
    exact h.inUse k hk
  idle key hkey := by
    rw [hidle] at hkey
    rw [hservers key (List.mem_append_right _ hkey)]
    exact h.idle key hkey

/-- A call that concerns one session alone, which its connection keeps track of. -/
theorem of_update (h : IsSettled status (k :: ks) c) (hidle : c'.idleSessions = c.idleSessions)
    (hservers : status c'.servers =
      Function.update (status c.servers) k.key (some k'.inTransaction)) (hkey : k'.key = k.key) :
    IsSettled status (k' :: ks) c' := by
  obtain ⟨hks, hnew, -⟩ := iff_cons.1 h
  refine iff_cons.2 ⟨hks.of_eqOn hidle fun key hmem => ?_, ?_, ?_⟩
  · have hne : key ≠ k.key := fun he => hnew (he ▸ hmem)
    rw [hservers, Function.update_of_ne hne]
  · rw [hkey, hidle]
    exact hnew
  · rw [hservers, hkey, Function.update_self]

/-- The session of a connection that is given up may end. -/
theorem disconnect (h : IsSettled status (k :: ks) c) (hidle : c'.idleSessions = c.idleSessions)
    (hservers : ∀ other ≠ k.key, status c'.servers other = status c.servers other) :
    IsSettled status ks c' := by
  obtain ⟨hks, hnew, -⟩ := iff_cons.1 h
  exact hks.of_eqOn hidle fun key hmem => hservers key fun he => hnew (he ▸ hmem)

/-- A session that is opened is none of those that were open. -/
theorem connect (h : IsSettled status ks c) (hidle : c'.idleSessions = c.idleSessions)
    (hnone : status c.servers k.key = none)
    (hservers : status c'.servers = Function.update (status c.servers) k.key (some false))
    (hk : k.inTransaction = false) : IsSettled status (k :: ks) c' := by
  have hnew : ∀ key ∈ ks.map Connection.key ++ c.idleSessions, key ≠ k.key := by
    rintro key hmem rfl
    obtain hmem | hmem := List.mem_append.1 hmem
    · obtain ⟨k', hk', hkey⟩ := List.mem_map.1 hmem
      rw [← hkey, h.inUse k' hk'] at hnone
      cases hnone
    · rw [h.idle k.key hmem] at hnone
      cases hnone
  refine iff_cons.2 ⟨h.of_eqOn hidle fun key hmem => ?_, ?_, ?_⟩
  · rw [hservers, Function.update_of_ne (hnew key hmem)]
  · rw [hidle]
    exact fun hmem => hnew k.key hmem rfl
  · rw [hservers, Function.update_self, hk]

/-- A session without a transaction goes from those that are idle to those that are used. -/
theorem take (h : IsSettled status ks c) (hidle : c.idleSessions.Perm (k.key :: c'.idleSessions))
    (hservers : c'.servers = c.servers) (hk : k.inTransaction = false) :
    IsSettled status (k :: ks) c' := by
  have hnodup := ((hidle.append_left (ks.map Connection.key)).trans List.perm_middle).nodup_iff.1
    h.nodup
  obtain ⟨hkey, hrest⟩ := List.nodup_cons.1 hnodup
  refine iff_cons.2 ⟨⟨hrest, ?_, ?_⟩, hkey, ?_⟩
  · rw [hservers]
    exact h.inUse
  · intro key hmem
    rw [hservers]
    exact h.idle key (hidle.mem_iff.2 (List.mem_cons_of_mem _ hmem))
  · rw [hservers, hk]
    exact h.idle k.key (hidle.mem_iff.2 List.mem_cons_self)

/-- And it comes back as it went. -/
theorem giveBack (h : IsSettled status (k :: ks) c)
    (hidle : c'.idleSessions.Perm (k.key :: c.idleSessions)) (hservers : c'.servers = c.servers)
    (hk : k.inTransaction = false) : IsSettled status ks c' := by
  obtain ⟨hks, -, hstatus⟩ := iff_cons.1 h
  refine ⟨?_, ?_, ?_⟩
  · exact ((hidle.append_left (ks.map Connection.key)).trans List.perm_middle).nodup_iff.2 h.nodup
  · rw [hservers]
    exact hks.inUse
  · intro key hmem
    rw [hservers]
    obtain rfl | hmem := List.mem_cons.1 (hidle.mem_iff.1 hmem)
    · rw [hstatus, hk]
    · exact hks.idle key hmem

end IsSettled

section Calls

variable {server : Server ς} {status : ς → Nat × Nat → Option Bool} {controls : String → Bool}
variable (hserver : server.TracksTransactions status controls)

include hserver

/-- Attempts that fail change nothing. -/
theorem status_connectWithin (database left wait longest : Nat) (s : ς) :
    (∃ e s', connectWithin server database left wait longest s = (.error e, s') ∧
      status s' = status s) ∨
    ∃ session s', connectWithin server database left wait longest s = (.ok session, s') ∧
      status s (database, session) = none ∧
      status s' = Function.update (status s) (database, session) (some false) := by
  fun_induction connectWithin server database left wait longest s with
  | case1 left wait s e s' hconnect _ => exact .inl ⟨e, s', rfl, hserver.refuse hconnect⟩
  | case2 left wait s e s' hconnect _ _ => exact .inl ⟨_, s', rfl, hserver.refuse hconnect⟩
  | case3 left wait s e s' hconnect _ _ ih =>
    rw [hserver.refuse hconnect] at ih
    exact ih
  | case4 left wait s hother =>
    cases hconnect : server.connect database s with
    | mk result s' =>
      cases result with
      | error e => exact absurd hconnect (hother e s')
      | ok session => exact .inr ⟨session, s', rfl, hserver.connect hconnect⟩

variable {ks : List Connection} {k : Connection} {c : Cluster ς}

namespace IsSettled

/-- A session that is taken from a pool, or opened for it, is settled. -/
theorem acquire (h : IsSettled status ks c) {database : Nat} {pool : Pool}
    (hpool : c.pools[database]? = some pool) :
    (∃ e, (c.acquire server database pool).1 = .error e ∧
      IsSettled status ks (c.acquire server database pool).2) ∨
    ∃ k, (c.acquire server database pool).1 = .ok k ∧
      IsSettled status (k :: ks) (c.acquire server database pool).2 := by
  unfold Cluster.acquire
  by_cases hclosed : pool.closed = true
  · rw [if_pos hclosed]
    exact .inl ⟨_, rfl, h⟩
  by_cases htimeout : pool.acquireTimeout.millis = 0
  · rw [if_neg hclosed, if_pos htimeout]
    exact .inl ⟨_, rfl, h⟩
  rw [if_neg hclosed, if_neg htimeout]
  cases hidle : pool.idle with
  | cons session idle =>
    obtain ⟨rest, hbefore, hafter⟩ := perm_idleSessions hpool
    refine .inr ⟨_, rfl, h.take ?_ rfl rfl⟩
    rw [hidle] at hbefore
    exact hbefore.trans ((hafter fun pool => { pool with idle }).symm.cons _)
  | nil =>
    by_cases hfull : pool.maxConnections ≤ pool.size
    · simp only [if_pos hfull]
      exact .inl ⟨_, rfl, h⟩
    simp only [if_neg hfull]
    obtain ⟨e, s', hconnect, hstatus⟩ | ⟨session, s', hconnect, hnone, hstatus⟩ :=
      status_connectWithin hserver database pool.acquireTimeout.millis 10
        (pool.acquireTimeout.millis / 5) c.servers
    · rw [hconnect]
      exact .inl ⟨e, rfl, h.of_eqOn rfl fun key _ => congrFun hstatus key⟩
    · rw [hconnect]
      exact .inr ⟨_, rfl, h.connect (idleSessions_updatePool fun _ => rfl) hnone hstatus rfl⟩

/-- A session that is given up goes back to its pool, or ends. -/
theorem release (h : IsSettled status (k :: ks) c) :
    IsSettled status ks (c.release server k) := by
  unfold Cluster.release
  by_cases hreuse : c.canReuse server k = true
  · rw [if_pos hreuse]
    obtain ⟨hk, pool, hpool⟩ := inTransaction_of_canReuse hreuse
    exact h.giveBack (perm_giveBack hpool) rfl hk
  · rw [if_neg hreuse]
    exact h.disconnect (idleSessions_updatePool fun _ => rfl) (hserver.disconnect c.servers)

omit hserver in
/-- Where a session goes: back to its pool if no transaction is open, and never if one is. -/
theorem mem_idleSessions_release (server : Server ς) (h : IsSettled status (k :: ks) c) :
    (status c.servers k.key = some true → (c.release server k).idleSessions = c.idleSessions ∧
      (c.release server k).servers = server.disconnect k.database k.session c.servers) ∧
    ∀ key ∈ (c.release server k).idleSessions, key ∈ c.idleSessions ∨
      key = k.key ∧ status c.servers key = some false := by
  obtain ⟨-, -, hstatus⟩ := iff_cons.1 h
  by_cases hreuse : c.canReuse server k = true
  · have hrelease : c.release server k = c.updatePool k.database fun pool =>
        { pool with idle := pool.idle ++ [k.session] } := if_pos hreuse
    obtain ⟨hk, pool, hpool⟩ := inTransaction_of_canReuse hreuse
    rw [hk] at hstatus
    refine ⟨fun hopen => ?_, fun key hkey => ?_⟩
    · rw [hstatus] at hopen
      cases hopen
    · rw [hrelease] at hkey
      obtain rfl | hkey := List.mem_cons.1 ((perm_giveBack hpool).mem_iff.1 hkey)
      · exact .inr ⟨rfl, hstatus⟩
      · exact .inl hkey
  · have hidle : (c.release server k).idleSessions = c.idleSessions := by
      rw [Cluster.release, if_neg hreuse]
      exact idleSessions_updatePool fun _ => rfl
    refine ⟨fun _ => ⟨hidle, ?_⟩, fun key hkey => .inl (hidle ▸ hkey)⟩
    rw [Cluster.release, if_neg hreuse]
    rfl

/-- An end that is sent leaves no transaction, whatever the answer. -/
theorem sendEnd (h : IsSettled status (k :: ks) c) {sql : String}
    (hsql : sql = "COMMIT" ∨ sql = "ROLLBACK") :
    IsSettled status ({ k with inTransaction := false } :: ks)
      (c.sendCommand server sql k).state := by
  obtain ⟨-, -, hstatus⟩ := iff_cons.1 h
  refine h.of_update rfl ?_ rfl
  refine (hserver.finish hsql rfl).trans ?_
  rw [← Connection.key, hstatus]
  rfl

/-- A begin that is sent opens a transaction if it succeeds. -/
theorem sendBegin (h : IsSettled status (k :: ks) c) (isolation : IsolationLevel) :
    let r := c.sendCommand server ("BEGIN ISOLATION LEVEL " ++ isolationSql isolation) k
    IsSettled status ({ k with inTransaction := k.inTransaction || r.answer.isOk } :: ks)
      r.state := by
  obtain ⟨-, -, hstatus⟩ := iff_cons.1 h
  refine h.of_update rfl ?_ rfl
  cases hcommand : server.command k.database k.session
      ("BEGIN ISOLATION LEVEL " ++ isolationSql isolation) c.servers with
  | mk result s' =>
    have hupdate := hserver.begin hcommand
    rw [← Connection.key, hstatus] at hupdate
    simp only [sendCommand, hcommand]
    rw [hupdate]
    cases result <;> rfl

omit hserver in
/-- A statement that leaves the transactions as they are. -/
theorem answerStatement {server : Server ς} (h : IsSettled status (k :: ks) c) {request : Request}
    {command : SqlCommand} (hrequest : request.statement? = some command)
    (hstatus : status (Postgres.answer server request k c).state.servers = status c.servers) :
    IsSettled status ((Postgres.answer server request k c).answer.2 :: ks)
      (Postgres.answer server request k c).state := by
  cases request with
  | reader command => exact h.of_eqOn rfl fun key _ => congrFun hstatus key
  | nonQuery command => exact h.of_eqOn rfl fun key _ => congrFun hstatus key
  | _ => cases hrequest

/-- A connection notes what a request does to its transaction. -/
theorem answer (h : IsSettled status (k :: ks) c) {request : Request}
    (hrequest : request.IsAdmitted (controls · = false)) :
    IsSettled status ((Postgres.answer server request k c).answer.2 :: ks)
      (Postgres.answer server request k c).state := by
  cases request with
  | begin isolation => exact h.sendBegin hserver isolation
  | commit => exact h.sendEnd hserver (.inl rfl)
  | rollback => exact h.sendEnd hserver (.inr rfl)
  | reader command => exact h.answerStatement rfl (hserver.execute _ c.servers hrequest)
  | nonQuery command => exact h.answerStatement rfl (hserver.execute _ c.servers hrequest)

/-- A pool that is added has at most a session that it has just opened. -/
theorem addPool (h : IsSettled status [] c) (url : String) (eager : Bool) {pool : Pool}
    (hpool : pool.idle = []) : IsSettled status [] (c.addPool server url eager pool).2 := by
  have hadded : IsSettled status [] { c with pools := c.pools ++ [pool] } := by
    refine h.of_eqOn ?_ fun _ _ => rfl
    simp [idleSessions, List.mapIdx_append, hpool]
  unfold Cluster.addPool
  cases Address.check url with
  | error e => exact hadded
  | ok _ =>
    cases eager with
    | false => exact hadded
    | true =>
      have hentry : (c.pools ++ [pool])[c.pools.length]? = some pool := by simp
      simp only [connectNow, if_true]
      obtain ⟨e, hresult, hs⟩ | ⟨k, hresult, hs⟩ := hadded.acquire hserver hentry
      · rw [hresult]
        exact hs
      · rw [hresult]
        exact hs.release hserver

end IsSettled

end Calls

end Cluster

section Runs

/-- The application after an action, with whether blocking calls can be served then. -/
def runAction (server : Server ς) (step : Bool × Action)
    (app : Application (Cluster ς) Connection) : Application (Cluster ς) Connection :=
  (app.act (backend server step.1) step.2).2

/-- The application after actions in turn. -/
def runActions (server : Server ς) (steps : List (Bool × Action))
    (app : Application (Cluster ς) Connection) : Application (Cluster ς) Connection :=
  steps.foldl (fun app step => runAction server step app) app

/-- What is so of each action in a run, of the application before it and of the one after it. -/
def EachStep (server : Server ς)
    (R : Application (Cluster ς) Connection → Action → Application (Cluster ς) Connection → Prop) :
    List (Bool × Action) → Application (Cluster ς) Connection → Prop
  | [], _ => True
  | step :: rest, app =>
    R app step.2 (runAction server step app) ∧ EachStep server R rest (runAction server step app)

/-- Every connection in use is marked exactly if a transaction is open on its session. -/
def MarksTransactions (status : ς → Nat × Nat → Option Bool)
    (app : Application (Cluster ς) Connection) : Prop :=
  ∀ k ∈ app.connectionsInUse, status app.session.backend.servers k.key = some k.inTransaction

/-- The action begins and ends no transaction by a statement that it sends on a connection of its
own. -/
def LeavesTransactions (status : ς → Nat × Nat → Option Bool)
    (app : Application (Cluster ς) Connection) (action : Action)
    (app' : Application (Cluster ς) Connection) : Prop :=
  action.statement?.isSome →
    status app'.session.backend.servers = status app.session.backend.servers

variable {server : Server ς} {status : ς → Nat × Nat → Option Bool} {controls : String → Bool}

/-- A statement that is sent on a connection of its own does not reach the server, or it reaches the
session of a connection that stays as it is. -/
theorem exists_execute_of_statement? {step : Bool × Action} {command : SqlCommand}
    (hstep : step.2.statement? = some command) (app : Application (Cluster ς) Connection) :
    let app' := runAction server step app
    app'.session.backend.servers = app.session.backend.servers ∨
      ∃ k ∈ app.connectionsInUse, k ∈ app'.connectionsInUse ∧
        ∃ arguments, app'.session.backend.servers =
          (server.execute k.database k.session command.sql arguments
            app.session.backend.servers).2 := by
  obtain ⟨servesBlocking, action⟩ := step
  cases action with
  | send i request calling =>
    intro app'
    cases hh : app.connection? i with
    | none =>
      have happ' : app' = app := by simp [app', runAction, Application.act, Application.send, hh]
      exact .inl (by rw [happ'])
    | some h =>
      obtain ⟨s, hs, happ'⟩ :=
        Application.send_of_connection? hh (backend server servesBlocking) request calling
      change app' = _ at happ'
      have hservers : app'.session.backend.servers = s.backend.servers := by
        rw [happ']
        rfl
      rw [hs] at hservers
      by_cases hserved : calling = .blocking ∧ !servesBlocking
      · simp only [backend, if_pos hserved] at hservers
        exact .inl hservers
      simp only [backend, if_neg hserved] at hservers happ'
      have hmem : (answer server request h.connection app.session.backend).answer.2 ∈
          app'.connectionsInUse := by
        rw [happ', (Application.perm_putConnection i _).mem_iff]
        exact List.mem_cons_self
      refine .inr ⟨h.connection, Application.mem_connectionsInUse_of_connection? hh, ?_⟩
      cases request with
      | reader command =>
        cases hstep
        exact ⟨hmem, _, hservers⟩
      | nonQuery command =>
        cases hstep
        exact ⟨hmem, _, hservers⟩
      | _ => cases hstep
  | _ => cases hstep

/-- If the marks are right before a statement and after it, then it leaves the transactions as they
are. -/
theorem leavesTransactions_of_marksTransactions (hseparate : server.SeparatesSessions status)
    {step : Bool × Action} {app : Application (Cluster ς) Connection}
    (hbefore : MarksTransactions status app)
    (hafter : MarksTransactions status (runAction server step app)) :
    LeavesTransactions status app step.2 (runAction server step app) := by
  intro hstep
  obtain ⟨command, hcommand⟩ := Option.isSome_iff_exists.1 hstep
  obtain hsame | ⟨k, hk, hk', arguments, hservers⟩ := exists_execute_of_statement? hcommand app
  · rw [hsame]
  · funext key
    by_cases hkey : key = k.key
    · subst hkey
      rw [hbefore k hk, hafter k hk']
    · rw [hservers]
      exact hseparate _ _ _ _ _ key hkey

variable (hserver : server.TracksTransactions status controls)

include hserver

/-- Opening a connection fails, or yields one that is settled. -/
theorem isSettled_connect (servesBlocking : Bool) (calling : Calling) (database : Nat)
    {ks : List Connection} {c : Cluster ς} (h : c.IsSettled status ks) :
    let r := (backend server servesBlocking).connect calling database c
    (∃ e, r.answer = .error e ∧ r.state.IsSettled status ks) ∨
      ∃ k, r.answer = .ok k ∧ r.state.IsSettled status (k :: ks) := by
  by_cases hserved : calling = .blocking ∧ !servesBlocking
  · simp only [backend, if_pos hserved]
    exact .inl ⟨_, rfl, h⟩
  simp only [backend, if_neg hserved]
  cases hpool : c.pools[database]? with
  | none => exact .inl ⟨_, rfl, h⟩
  | some pool =>
    obtain ⟨e, hresult, hs⟩ | ⟨k, hresult, hs⟩ := h.acquire hserver hpool
    · simp only [hresult]
      exact .inl ⟨_, rfl, hs⟩
    · simp only [hresult]
      exact .inr ⟨k, rfl, hs⟩

/-- Every call on the pools keeps them settled, whether blocking calls can be served or not. -/
theorem keeps_isSettled (servesBlocking : Bool) :
    (backend server servesBlocking).Keeps (controls · = false) (Cluster.IsSettled status) where
  perm := Cluster.IsSettled.perm
  connect := by
    intro calling database ks c k h hanswer
    obtain ⟨e, herror, -⟩ | ⟨k', hok, hs⟩ :=
      isSettled_connect hserver servesBlocking calling database h
    · rw [herror] at hanswer
      cases hanswer
    · rw [hok] at hanswer
      cases hanswer
      exact hs
  refuse := by
    intro calling database ks c e h hanswer
    obtain ⟨e', herror, hs⟩ | ⟨k, hok, -⟩ :=
      isSettled_connect hserver servesBlocking calling database h
    · exact hs
    · rw [hok] at hanswer
      cases hanswer
  send := by
    intro calling request k ks c hrequest h
    by_cases hserved : calling = .blocking ∧ !servesBlocking
    · simp only [backend, if_pos hserved]
      exact h
    · simp only [backend, if_neg hserved]
      exact h.answer hserver hrequest
  release := fun h => h.release hserver

theorem admitsRenderings : AdmitsRenderings (controls · = false) := by
  intro s d mode
  obtain ⟨word, hword, rest, hsql⟩ := s.exists_opening_compile d mode
  rw [hsql]
  exact hserver.openings word hword rest

/-- Statements leave the transactions as they are that do not control them. -/
theorem eachStep_leavesTransactions {steps : List (Bool × Action)}
    (hsteps : ∀ step ∈ steps, ∀ command, step.2.statement? = some command →
      controls command.sql = false) (app : Application (Cluster ς) Connection) :
    EachStep server (LeavesTransactions status) steps app := by
  induction steps generalizing app with
  | nil => trivial
  | cons step steps ih =>
    obtain ⟨hstep, hrest⟩ := List.forall_mem_cons.1 hsteps
    refine ⟨fun hstatement => ?_, ih hrest _⟩
    obtain ⟨command, hcommand⟩ := Option.isSome_iff_exists.1 hstatement
    obtain hsame | ⟨k, -, -, arguments, hservers⟩ := exists_execute_of_statement? hcommand app
    · rw [hsame]
    · rw [hservers]
      exact hserver.execute arguments _ (hstep command hcommand)

/-- A step keeps the sessions settled, unless it begins or ends a transaction by a statement that it
sends on a connection of its own. -/
theorem owns_runAction {step : Bool × Action} {app : Application (Cluster ς) Connection}
    (happ : app.Owns (Cluster.IsSettled status))
    (hleaves : LeavesTransactions status app step.2 (runAction server step app)) :
    (runAction server step app).Owns (Cluster.IsSettled status) := by
  refine happ.owns_act (keeps_isSettled hserver step.1) (admitsRenderings hserver) ?_
  obtain ⟨servesBlocking, action⟩ := step
  cases action with
  | send i request calling =>
    intro h ks hh hsettled
    cases hrequest : request.statement? with
    | none =>
      exact (keeps_isSettled hserver servesBlocking).send
        (request.isAdmitted_of_statement?_eq_none hrequest _) hsettled
    | some command =>
      obtain ⟨s, hs, happ'⟩ :=
        Application.send_of_connection? hh (backend server servesBlocking) request calling
      have hstatus : status s.backend.servers = status app.session.backend.servers := by
        have hafter := hleaves (by simp [Action.statement?, hrequest])
        change status (app.send _ i request calling).2.session.backend.servers = _ at hafter
        rw [happ'] at hafter
        exact hafter
      rw [hs] at hstatus
      by_cases hserved : calling = .blocking ∧ !servesBlocking
      · simp only [backend, if_pos hserved]
        exact hsettled
      · simp only [backend, if_neg hserved] at hstatus ⊢
        exact hsettled.answerStatement hrequest hstatus
  | _ => trivial

/-- What holds of the connections in use holds along such a run. -/
theorem owns_runActions {steps : List (Bool × Action)} {app : Application (Cluster ς) Connection}
    (happ : app.Owns (Cluster.IsSettled status))
    (hsteps : EachStep server (LeavesTransactions status) steps app) :
    (runActions server steps app).Owns (Cluster.IsSettled status) := by
  induction steps generalizing app with
  | nil => exact happ
  | cons step steps ih =>
    obtain ⟨hstep, hrest⟩ := hsteps
    exact ih (owns_runAction hserver happ hstep) hrest

/-- The marks are right all along a run if and only if no statement makes one wrong. -/
theorem eachStep_marksTransactions_iff (hseparate : server.SeparatesSessions status)
    {app : Application (Cluster ς) Connection} (happ : app.Owns (Cluster.IsSettled status))
    (steps : List (Bool × Action)) :
    EachStep server (fun _ _ app' => MarksTransactions status app') steps app ↔
      EachStep server (LeavesTransactions status) steps app := by
  induction steps generalizing app with
  | nil => rfl
  | cons step steps ih =>
    constructor
    · rintro ⟨hmarks, hrest⟩
      have hleaves :=
        leavesTransactions_of_marksTransactions hseparate happ.invariant.inUse hmarks
      exact ⟨hleaves, (ih (owns_runAction hserver happ hleaves)).1 hrest⟩
    · rintro ⟨hleaves, hrest⟩
      have happ' := owns_runAction hserver happ hleaves
      exact ⟨happ'.invariant.inUse, (ih happ').2 hrest⟩

/-- Take an application that uses no connection yet, over pools whose idle sessions have no
transactions. After each action, whatever it is and whatever the server refuses, a connection in use
is marked exactly if a transaction is open on its session: if and only if no statement that is sent
on a connection of its own begins or ends a transaction, for which there are requests. No idle
session then has a transaction. A connection that is given up ends its session if a transaction is
open, and leaves it to the pool only if none is. -/
theorem marks_follow_transactions_iff (hseparate : server.SeparatesSessions status)
    {app : Application (Cluster ς) Connection} (happ : app.IsFresh)
    (hpools : app.session.backend.IsSettled status []) (steps : List (Bool × Action)) :
    (EachStep server (fun _ _ app' => MarksTransactions status app') steps app ↔
      EachStep server (LeavesTransactions status) steps app) ∧
    (EachStep server (LeavesTransactions status) steps app →
      let app' := runActions server steps app
      let c := app'.session.backend
      (∀ key ∈ c.idleSessions, status c.servers key = some false) ∧
      ∀ k ∈ app'.connectionsInUse, ∀ servesBlocking,
        let c' := ((backend server servesBlocking).release k c).state
        (status c.servers k.key = some true → c'.idleSessions = c.idleSessions ∧
          c'.servers = server.disconnect k.database k.session c.servers) ∧
        ∀ key ∈ c'.idleSessions, key ∈ c.idleSessions ∨
          key = k.key ∧ status c'.servers key = some false) := by
  have howns := happ.owns hpools
  refine ⟨eachStep_marksTransactions_iff hserver hseparate howns steps, ?_⟩
  intro hsteps app' c
  have hsettled := (owns_runActions hserver howns hsteps).invariant
  refine ⟨hsettled.idle, fun k hk servesBlocking => ?_⟩
  obtain ⟨before, after, hsplit⟩ := List.append_of_mem hk
  rw [hsplit] at hsettled
  have hk : c.IsSettled status (k :: (before ++ after)) := hsettled.perm List.perm_middle
  obtain ⟨hends, hidle⟩ := hk.mem_idleSessions_release server
  refine ⟨hends, fun key hkey => (hidle key hkey).imp_right ?_⟩
  rintro ⟨rfl, -⟩
  exact ⟨rfl, (hk.release hserver).idle k.key hkey⟩

end Runs

section Ledgers

/-- The sessions of a server that are open, and those on which a transaction is. -/
structure Ledger where
  sessions : List (Nat × Nat)
  transactions : List (Nat × Nat) := []

namespace Ledger

/-- The status of a session. -/
def status (l : Ledger) (key : Nat × Nat) : Option Bool :=
  if key ∈ l.sessions then some (decide (key ∈ l.transactions)) else none

/-- Whether a statement controls transactions, by its first word. -/
def controls (sql : String) : Bool :=
  ["BEGIN", "START", "COMMIT", "END", "ROLLBACK", "ABORT"].any fun word =>
    word.toList.isPrefixOf sql.toList

/-- Whether a statement begins a transaction. -/
def begins (sql : String) : Bool :=
  ["BEGIN", "START"].any fun word => word.toList.isPrefixOf sql.toList

/-- Takes a command that controls transactions; an end takes effect even if it is refused. -/
def control (refuses : String → Bool) (key : Nat × Nat) (sql : String) (l : Ledger) :
    Except DriverError Unit × Ledger :=
  let result := if refuses sql then .error (.database ⟨"refused", ""⟩) else .ok ()
  let transactions :=
    if begins sql then if refuses sql then l.transactions else key :: l.transactions
    else l.transactions.filter (· ≠ key)
  (result, { l with transactions })

/-- A server that keeps a ledger and refuses some commands. -/
def server (refuses : String → Bool) : Server Ledger where
  connect database l :=
    let key := (database, l.sessions.length)
    if key ∈ l.sessions then (.error .refused, l)
    else (.ok key.2, ⟨key :: l.sessions, l.transactions.filter (· ≠ key)⟩)
  command database session sql l := control refuses (database, session) sql l
  execute database session sql _ l :=
    if controls sql then
      let (result, l) := control refuses (database, session) sql l
      (⟨⟨0⟩, result.map fun _ => {}⟩, l)
    else (⟨⟨0⟩, .ok {}⟩, l)
  isAlive database session l := decide ((database, session) ∈ l.sessions)
  disconnect database session l :=
    { l with sessions := l.sessions.filter (· ≠ (database, session)) }

theorem status_control (refuses : String → Bool) (key : Nat × Nat) (sql : String) (l : Ledger) :
    (control refuses key sql l).2.status = Function.update l.status key
      ((l.status key).map fun isOpen =>
        if begins sql then isOpen || (control refuses key sql l).1.isOk else false) := by
  funext other
  cases hbegins : begins sql <;> cases hrefuses : refuses sql <;> by_cases hother : other = key <;>
    by_cases hkey : key ∈ l.sessions <;>
    simp [control, status, hbegins, hrefuses, hother, hkey, Except.isOk, Except.toBool]

/-- A word that a statement begins with is none of those that control transactions. -/
theorem controls_opening : ∀ word ∈ statementOpenings, ∀ rest, controls (word ++ rest) = false := by
  intro word hword rest
  simp only [statementOpenings, List.mem_cons, List.not_mem_nil, or_false] at hword
  obtain rfl | rfl | rfl | rfl | rfl | rfl := hword <;>
    simp [controls, String.toList_append, List.isPrefixOf]

theorem tracksTransactions (refuses : String → Bool) :
    (server refuses).TracksTransactions status controls where
  connect := by
    intro database session l l' h
    simp only [server] at h
    split at h
    · cases h
    · rename_i hnew
      cases h
      refine ⟨if_neg hnew, ?_⟩
      funext other
      by_cases hother : other = (database, l.sessions.length) <;> simp [status, hother]
  refuse := by
    intro database e l l' h
    simp only [server] at h
    split at h
    · cases h
      rfl
    · cases h
  begin := by
    intro database session level result l l' h
    have hcontrol :=
      status_control refuses (database, session) ("BEGIN ISOLATION LEVEL " ++ level) l
    have hbegins : begins ("BEGIN ISOLATION LEVEL " ++ level) = true := by
      simp [begins, String.toList_append, List.isPrefixOf]
    change control refuses _ _ l = _ at h
    rw [h, hbegins] at hcontrol
    exact hcontrol
  finish := by
    intro database session sql result l l' hsql h
    have hcontrol := status_control refuses (database, session) sql l
    have hbegins : begins sql = false := by
      obtain rfl | rfl := hsql <;> decide
    change control refuses _ _ l = _ at h
    rw [h, hbegins] at hcontrol
    exact hcontrol
  execute := by
    intro database session sql arguments l hsql
    simp [server, hsql]
  disconnect := by
    intro database session l other hother
    simp [server, status, hother]
  openings := controls_opening

theorem separatesSessions (refuses : String → Bool) :
    (server refuses).SeparatesSessions status := by
  intro database session sql arguments l other hother
  simp only [server]
  split
  · exact (congrFun (status_control refuses (database, session) sql l) other).trans
      (Function.update_of_ne hother _ _)
  · rfl

/-- An application with two idle sessions and a transaction. -/
def applicationWithTwoSessions : Application (Cluster Ledger) Connection where
  session :=
    { backend :=
        { pools := [⟨2, ⟨20000⟩, none, [0, 1], 2, false⟩]
          servers := ⟨[(0, 0), (0, 1)], []⟩ } }
  databases := [{ id := 0, name := "main", dialect := .postgres }]
  statements :=
    [{ built := .query ⟨.select { head := { fields := [.value .int (.int 1)] } }, []⟩ }]
  transactions := [some {}]

theorem isFresh_applicationWithTwoSessions : applicationWithTwoSessions.IsFresh := by
  refine ⟨rfl, ?_, ?_⟩
  · simp [applicationWithTwoSessions, connectionsOf, TransactionState.connections]
  · simp [applicationWithTwoSessions]

theorem isSettled_applicationWithTwoSessions :
    applicationWithTwoSessions.session.backend.IsSettled status [] :=
  ⟨by decide, by simp, by decide⟩

/-- A statement that is sent on a connection of its own. -/
def commandOf (sql : String) : SqlCommand := ⟨sql, .update, none, []⟩

/-- A session that is used directly begins a transaction and executes a statement in it. It cannot
end it because blocking calls are not served by then. Another executes a statement in a transaction,
whose commit is refused. -/
def stepsWithRefusedCommit : List (Bool × Action) :=
  [(true, .connect 0 0 .blocking), (true, .send 0 (.begin .readCommitted) .blocking),
    (true, .send 0 (.nonQuery (commandOf "UPDATE t SET a=1")) .blocking),
    (false, .send 0 .commit .blocking), (true, .execute 0 0 (some 0) none {} .asynchronous),
    (true, .finish 0 .commit .asynchronous)]

/-- The application after that. -/
def applicationAfterRefusedCommit : Application (Cluster Ledger) Connection :=
  runActions (server (· == "COMMIT")) stepsWithRefusedCommit applicationWithTwoSessions

/-- The first session stays marked and ends when it is given up; the second is back in its pool. -/
theorem sessions_after_refused_commit :
    let c := applicationAfterRefusedCommit.session.backend
    c.servers.status (0, 0) = some true ∧ c.servers.status (0, 1) = some false ∧
      c.idleSessions = [(0, 1)] ∧
      ((backend (server (· == "COMMIT")) false).release ⟨0, 0, true, none⟩ c).state.idleSessions =
        [(0, 1)] := by
  intro c
  have hsteps : EachStep (server (· == "COMMIT")) (LeavesTransactions status)
      stepsWithRefusedCommit applicationWithTwoSessions := by
    have hupdate : controls (commandOf "UPDATE t SET a=1").sql = false := by decide
    apply eachStep_leavesTransactions (tracksTransactions _)
    simp [stepsWithRefusedCommit, Action.statement?, Request.statement?, hupdate]
  have hinUse : applicationAfterRefusedCommit.connectionsInUse = [⟨0, 0, true, none⟩] := by
    decide +kernel
  have hidle : c.idleSessions = [(0, 1)] := by decide +kernel
  obtain ⟨hmarked, hpooled⟩ := marks_follow_transactions_iff (tracksTransactions (· == "COMMIT"))
    (separatesSessions _) isFresh_applicationWithTwoSessions isSettled_applicationWithTwoSessions
    stepsWithRefusedCommit
  obtain ⟨-, -, -, -, -, hlast, -⟩ := hmarked.2 hsteps
  obtain ⟨hnone, hreleased⟩ := hpooled hsteps
  have hk : ⟨0, 0, true, none⟩ ∈ applicationAfterRefusedCommit.connectionsInUse := by
    rw [hinUse]
    exact List.mem_cons_self
  have hopen : c.servers.status (0, 0) = some true := hlast _ hk
  have hends := ((hreleased _ hk false).1 hopen).1
  exact ⟨hopen, hnone (0, 1) (hidle ▸ List.mem_cons_self), hidle, hends.trans hidle⟩

/-- A transaction is begun by a statement. -/
def stepsWithBeginStatement : List (Bool × Action) :=
  [(true, .connect 0 0 .blocking), (true, .send 0 (.nonQuery (commandOf "BEGIN")) .blocking)]

/-- The application after that. -/
def applicationAfterBeginStatement : Application (Cluster Ledger) Connection :=
  runActions (server fun _ => false) stepsWithBeginStatement applicationWithTwoSessions

/-- The connection is not marked, and its session goes back to the pool with the transaction. -/
theorem idle_session_with_transaction :
    let c := applicationAfterBeginStatement.session.backend
    let c' := ((backend (server fun _ => false) true).release ⟨0, 0, false, none⟩ c).state
    (server fun _ => false).TracksTransactions status controls ∧
      (server fun _ => false).SeparatesSessions status ∧
      applicationWithTwoSessions.IsFresh ∧
      applicationWithTwoSessions.session.backend.IsSettled status [] ∧
      applicationAfterBeginStatement.connectionsInUse = [⟨0, 0, false, none⟩] ∧
      c.servers.status (0, 0) = some true ∧
      (0, 0) ∈ c'.idleSessions ∧ c'.servers.status (0, 0) = some true := by
  exact ⟨tracksTransactions _, separatesSessions _, isFresh_applicationWithTwoSessions,
    isSettled_applicationWithTwoSessions, by decide +kernel, by decide +kernel, by decide +kernel,
    by decide +kernel⟩

end Ledger

end Ledgers

end TypedSql.Postgres
