import TypedSql.Proofs.SessionTriples
/-!
# Steps of a transaction

A transaction is used and brought to its end step by step. What a step comes to is said once, as a
relation between the state before it, its calls, its result and the state after it; every case is
one way in which the calls can succeed or fail. Whole runs are read off it without looking at a
backend again.

## Main definitions

- `Use`, `Operation`: an execution within a transaction, and what can be done with one.
- `Operation.perform`: one step.
- `Transaction.Sends`: what a request within a transaction comes to.
- `Transaction.Proceeds`: what a step comes to.

## Main statements

- `Transaction.triple_send`, `Transaction.triple_finish`: requests and endings.
- `Operation.triple_perform`: every step is one of `Proceeds`.
-/

namespace TypedSql

open Session (Triple)

variable {σ κ : Type}

/-- The execution of a statement within a transaction. -/
structure Use where
  statement : Executable
  database : Database
  defaultMode : ParameterMode := .bind
  options : ExecuteOptions := {}
  /-- The values of the slots, if the statement is prepared. -/
  slots? : Option (List Value) := none
  calling : Calling := .blocking

/-- What is asked of the connection, if there is a value for each slot. -/
def Use.request (u : Use) : Except QueryError Request :=
  (u.statement.command u.database u.defaultMode u.options u.slots?).map u.statement.built.request

/-- What can be done with a transaction. -/
inductive Operation where
  | use (u : Use)
  | finish (ending : Ending) (calling : Calling)

/-- Does it. An ending has no outcome when it succeeds. -/
def Operation.perform (b : Backend σ κ) (t : Transaction κ) :
    Operation → SessionM σ (Except ExecError (Option Outcome) × Transaction κ)
  | use u => do
    let (result, t?, _) ←
      u.statement.execute b u.calling u.database u.defaultMode u.options u.slots? (some t)
    return (result.map some, t?.getD t)
  | finish ending calling => do
    let (result, t) ← t.finish b calling ending
    return (result.map fun () => none, t)

namespace Transaction

/-- What a request with a database comes to within a transaction: the state before it, the calls,
the answer and the state after it. -/
inductive Sends (isolation : IsolationLevel) (db : Database) (request : Request) :
    TransactionState κ → List (Nat × Call) → Except ExecError ResultSet → TransactionState κ → Prop
  | completed : Sends isolation db request .completed [] (.error .transactionCompleted) .completed
  | mismatched {bound : Database} {h : Handle κ} : bound.sameAs db = false →
      Sends isolation db request (.bound bound h) []
        (.error (.transactionDatabaseMismatch bound.name db.name)) (.bound bound h)
  | sent {bound : Database} {h : Handle κ} (answer : Except ExecError ResultSet)
      (connection : κ) : bound.sameAs db = true →
      Sends isolation db request (.bound bound h)
        [(h.database, .sent h.number request answer.isOk)] answer
        (.bound bound { h with connection })
  | refused (e : ExecError) :
      Sends isolation db request .unbound [(db.id, .refused)] (.error e) .unbound
  | notBegun (n : Nat) (e : ExecError) :
      Sends isolation db request .unbound
        [(db.id, .opened n), (db.id, .sent n (.begin isolation) false), (db.id, .released n)]
        (.error e) .unbound
  | begun (n : Nat) (answer : Except ExecError ResultSet) (connection : κ) :
      Sends isolation db request .unbound
        [(db.id, .opened n), (db.id, .sent n (.begin isolation) true),
          (db.id, .sent n request answer.isOk)] answer (.bound db ⟨db.id, n, connection⟩)

/-- What a step of a transaction comes to: the state before it, the calls, the result and the state
after it. -/
inductive Proceeds (isolation : IsolationLevel) : Operation → TransactionState κ →
    List (Nat × Call) → Except ExecError (Option Outcome) → TransactionState κ → Prop
  | unresolved {u : Use} {e : QueryError} (state : TransactionState κ) : u.request = .error e →
      Proceeds isolation (.use u) state [] (.error (.query e)) state
  | used {u : Use} {request : Request} {state state' : TransactionState κ}
      {calls : List (Nat × Call)} {answer : Except ExecError ResultSet} :
      u.request = .ok request → Sends isolation u.database request state calls answer state' →
      Proceeds isolation (.use u) state calls
        ((answer.bind u.statement.built.outcome).map some) state'
  | endedAgain {ending : Ending} {calling : Calling} :
      Proceeds isolation (.finish ending calling) .completed [] (.error .transactionCompleted)
        .completed
  | endedUnused {ending : Ending} {calling : Calling} :
      Proceeds isolation (.finish ending calling) .unbound [] (.ok none) .completed
  | ended {ending : Ending} {calling : Calling} {bound : Database} {h : Handle κ}
      (answer : Except ExecError ResultSet) :
      Proceeds isolation (.finish ending calling) (.bound bound h)
        [(h.database, .sent h.number ending.request answer.isOk), (h.database, .released h.number)]
        (answer.map fun _ => none) .completed

section Inversion

variable {isolation : IsolationLevel} {state state' : TransactionState κ}
variable {calls : List (Nat × Call)}

section Sends

variable {db : Database} {request : Request} {answer : Except ExecError ResultSet}

/-- A request for which no call is made was refused, by a transaction that has ended or is bound to
another database. -/
theorem Sends.refused_of_calls_eq_nil (h : Sends isolation db request state [] answer state') :
    answer = .error .transactionCompleted ∨
      ∃ bound : Database, answer = .error (.transactionDatabaseMismatch bound.name db.name) := by
  cases h with
  | completed => exact .inl rfl
  | @mismatched bound h _ => exact .inr ⟨bound, rfl⟩

theorem Sends.sent_of_sameAs {bound : Database} {h : Handle κ}
    (hsends : Sends isolation db request (.bound bound h) calls answer state')
    (hsame : bound.sameAs db = true) :
    calls = [(h.database, .sent h.number request answer.isOk)] ∧
      ∃ connection, state' = .bound bound { h with connection } := by
  cases hsends with
  | mismatched hother =>
    rw [hsame] at hother
    cases hother
  | sent _ connection _ => exact ⟨rfl, connection, rfl⟩

theorem Sends.mismatched_of_not_sameAs {bound : Database} {h : Handle κ}
    (hsends : Sends isolation db request (.bound bound h) calls answer state')
    (hother : bound.sameAs db = false) :
    answer = .error (.transactionDatabaseMismatch bound.name db.name) ∧ calls = [] ∧
      state' = .bound bound h := by
  cases hsends with
  | mismatched _ => exact ⟨rfl, rfl, rfl⟩
  | sent _ connection hsame =>
    rw [hother] at hsame
    cases hsame

/-- An unbound transaction opens a connection and begins on it, or stays unbound. -/
theorem Sends.of_unbound (hsends : Sends isolation db request .unbound calls answer state') :
    (calls = [(db.id, .refused)] ∧ state' = .unbound ∧ ∃ e, answer = .error e) ∨
    (∃ n, calls = [(db.id, .opened n), (db.id, .sent n (.begin isolation) false),
        (db.id, .released n)] ∧ state' = .unbound ∧ ∃ e, answer = .error e) ∨
    ∃ n connection, calls = [(db.id, .opened n), (db.id, .sent n (.begin isolation) true),
        (db.id, .sent n request answer.isOk)] ∧ state' = .bound db ⟨db.id, n, connection⟩ := by
  cases hsends with
  | refused e => exact .inl ⟨rfl, rfl, e, rfl⟩
  | notBegun n e => exact .inr (.inl ⟨n, rfl, rfl, e, rfl⟩)
  | begun n _ connection => exact .inr (.inr ⟨n, connection, rfl, rfl⟩)

end Sends

variable {u : Use} {ending : Ending} {calling : Calling}
variable {result : Except ExecError (Option Outcome)}

/-- A use whose slots have values is its request. -/
theorem Proceeds.sends {request : Request}
    (h : Proceeds isolation (.use u) state calls result state')
    (hrequest : u.request = .ok request) :
    ∃ answer, Sends isolation u.database request state calls answer state' ∧
      result = (answer.bind u.statement.built.outcome).map some := by
  cases h with
  | unresolved _ herror =>
    rw [hrequest] at herror
    cases herror
  | @used _ _ _ _ _ answer hrequest' hsends =>
    rw [hrequest] at hrequest'
    cases hrequest'
    exact ⟨answer, hsends, rfl⟩

theorem Proceeds.of_unresolved {e : QueryError}
    (h : Proceeds isolation (.use u) state calls result state') (hrequest : u.request = .error e) :
    result = .error (.query e) ∧ calls = [] ∧ state' = state := by
  cases h with
  | unresolved _ hrequest' =>
    rw [hrequest] at hrequest'
    cases hrequest'
    exact ⟨rfl, rfl, rfl⟩
  | used hrequest' _ =>
    rw [hrequest] at hrequest'
    cases hrequest'

theorem Proceeds.completed_of_finish
    (h : Proceeds isolation (.finish ending calling) state calls result state') :
    state' = .completed := by
  cases h with
  | endedAgain => rfl
  | endedUnused => rfl
  | ended answer => rfl

theorem Proceeds.of_finish_unbound
    (h : Proceeds isolation (.finish ending calling) .unbound calls result state') :
    calls = [] ∧ result = .ok none := by
  cases h with
  | endedUnused => exact ⟨rfl, rfl⟩

theorem Proceeds.of_finish_bound {bound : Database} {h : Handle κ}
    (hproceeds : Proceeds isolation (.finish ending calling) (.bound bound h) calls result state') :
    calls = [(h.database, .sent h.number ending.request result.isOk),
      (h.database, .released h.number)] := by
  cases hproceeds with
  | ended answer =>
    cases answer with
    | error e => rfl
    | ok answer => rfl

end Inversion

section Calls

variable (b : Backend σ κ) (calling : Calling) (base : List (Nat × Call))

theorem triple_connect_calls (db : Database) :
    Triple (fun s : Session σ => s.calls = base) (Session.connect b calling db) fun r s =>
      (∃ e, r = .error e ∧ s.calls = base ++ [(db.id, .refused)]) ∨
      ∃ n connection, r = .ok ⟨db.id, n, connection⟩ ∧
        s.calls = base ++ [(db.id, .opened n)] := by
  refine Session.triple_connect ?_ ?_
  · rintro s e rfl -
    exact .inl ⟨e, rfl, Session.calls_after ..⟩
  · rintro s connection rfl -
    exact .inr ⟨s.opened, connection, rfl, Session.calls_after ..⟩

theorem triple_send_calls (request : Request) (h : Handle κ) :
    Triple (fun s : Session σ => s.calls = base) (Session.send b calling request h) fun r s =>
      (∃ connection, r.2 = { h with connection }) ∧
        s.calls = base ++ [(h.database, .sent h.number request r.1.isOk)] := by
  refine Session.triple_send ?_
  rintro s rfl
  exact ⟨⟨_, rfl⟩, Session.calls_after ..⟩

theorem triple_release_calls (h : Handle κ) :
    Triple (fun s : Session σ => s.calls = base) (Session.release b h) fun _ s =>
      s.calls = base ++ [(h.database, .released h.number)] := by
  refine Session.triple_release ?_
  rintro s rfl
  exact Session.calls_after ..

theorem triple_log_calls (e : LogEvent) :
    Triple (fun s : Session σ => s.calls = base) (Session.log e) fun _ s => s.calls = base :=
  Session.triple_log (Session.unobserved_calls (· = base)) e

end Calls

section Requests

variable (b : Backend σ κ) (calling : Calling) (t : Transaction κ) (base : List (Nat × Call))

/-- To start a transaction, its connection is opened and the begin is sent on it; if that fails the
connection is given up. -/
theorem triple_start (db : Database) :
    Triple (fun s : Session σ => s.calls = base) (t.start b calling db) fun r s =>
      (∃ e, r = .error e ∧ s.calls = base ++ [(db.id, .refused)]) ∨
      (∃ e n, r = .error e ∧ s.calls = base ++ [(db.id, .opened n),
        (db.id, .sent n (.begin t.isolation) false), (db.id, .released n)]) ∨
      ∃ n connection, r = .ok ⟨db.id, n, connection⟩ ∧ s.calls = base ++
        [(db.id, .opened n), (db.id, .sent n (.begin t.isolation) true)] := by
  refine (triple_connect_calls b calling base db).bind fun r => .of_or
    (.of_exists fun e => .of_fact ?_) (.of_exists fun n => .of_exists fun connection => .of_fact ?_)
  · rintro rfl
    exact .pure fun s hs => .inl ⟨e, rfl, hs⟩
  rintro rfl
  refine (triple_send_calls b calling (base ++ [(db.id, .opened n)]) (.begin t.isolation)
    ⟨db.id, n, connection⟩).bind ?_
  rintro ⟨answer, h⟩
  refine .of_fact ?_
  rintro ⟨connection', hconnection⟩
  obtain rfl : h = ⟨db.id, n, connection'⟩ := hconnection
  cases answer with
  | error e =>
    refine (triple_release_calls b _ ⟨db.id, n, connection'⟩).bind fun _ => .pure fun s hs => ?_
    exact .inr (.inl ⟨e, n, rfl, by simpa [Except.isOk, Except.toBool] using hs⟩)
  | ok answer =>
    refine (triple_log_calls _ (.transactionStarted db.name t.isolation)).bind
      fun _ => .pure fun s hs => ?_
    exact .inr (.inr ⟨n, connection', rfl, by simpa [Except.isOk, Except.toBool] using hs⟩)

theorem triple_send (db : Database) (request : Request) :
    Triple (fun s : Session σ => s.calls = base) (t.send b calling db request) fun r s =>
      ∃ calls state, s.calls = base ++ calls ∧ r.2 = { t with state } ∧
        Sends t.isolation db request t.state calls r.1 state := by
  obtain ⟨isolation, state⟩ := t
  cases state with
  | completed => exact Triple.pure fun s hs => ⟨[], .completed, by simpa using hs, rfl, .completed⟩
  | bound bound h =>
    cases hsame : bound.sameAs db with
    | false =>
      simp only [send, hsame]
      exact Triple.pure fun s hs => ⟨[], .bound bound h, by simpa using hs, rfl, .mismatched hsame⟩
    | true =>
      simp only [send, hsame]
      refine (triple_send_calls b calling base request h).bind ?_
      rintro ⟨answer, h'⟩ s ⟨⟨connection, rfl⟩, hs⟩
      exact ⟨_, .bound bound { h with connection }, hs, rfl, .sent answer connection hsame⟩
  | unbound =>
    refine (triple_start b calling ⟨isolation, .unbound⟩ base db).bind fun r => .of_or
      (.of_exists fun e => .of_fact ?_) (.of_or
        (.of_exists fun e => .of_exists fun n => .of_fact ?_)
        (.of_exists fun n => .of_exists fun connection => .of_fact ?_))
    · rintro rfl
      exact .pure fun s hs => ⟨_, .unbound, hs, rfl, .refused e⟩
    · rintro rfl
      exact .pure fun s hs => ⟨_, .unbound, hs, rfl, .notBegun n e⟩
    · rintro rfl
      refine (triple_send_calls b calling _ request ⟨db.id, n, connection⟩).bind ?_
      rintro ⟨answer, h⟩
      refine .of_fact ?_
      rintro ⟨connection', hconnection⟩
      obtain rfl : h = ⟨db.id, n, connection'⟩ := hconnection
      exact .pure fun s hs => ⟨_, .bound db ⟨db.id, n, connection'⟩, by simpa using hs, rfl,
        .begun n answer connection'⟩

theorem triple_finish (ending : Ending) :
    Triple (fun s : Session σ => s.calls = base) (t.finish b calling ending) fun r s =>
      ∃ calls, s.calls = base ++ calls ∧ r.2 = { t with state := .completed } ∧
        Proceeds t.isolation (.finish ending calling) t.state calls (r.1.map fun () => none)
          .completed := by
  obtain ⟨isolation, state⟩ := t
  cases state with
  | completed => exact Triple.pure fun s hs => ⟨[], by simpa using hs, rfl, .endedAgain⟩
  | unbound => exact Triple.pure fun s hs => ⟨[], by simpa using hs, rfl, .endedUnused⟩
  | bound bound h =>
    refine (triple_send_calls b calling base ending.request h).bind ?_
    rintro ⟨answer, h'⟩
    refine .of_fact ?_
    rintro ⟨connection, hconnection⟩
    obtain rfl : h' = { h with connection } := hconnection
    cases answer with
    | error e =>
      refine (triple_release_calls b _ { h with connection }).bind fun _ => .pure fun s hs => ?_
      exact ⟨_, by simpa using hs, rfl, .ended (.error e)⟩
    | ok answer =>
      refine (triple_log_calls _ (ending.logged bound.name)).bind fun _ => ?_
      refine (triple_release_calls b _ { h with connection }).bind fun _ => .pure fun s hs => ?_
      exact ⟨_, by simpa using hs, rfl, .ended (.ok answer)⟩

end Requests

end Transaction

/-- Every step of a transaction is one of those that are listed. -/
theorem Operation.triple_perform (b : Backend σ κ) (t : Transaction κ)
    (base : List (Nat × Call)) (operation : Operation) :
    Triple (fun s : Session σ => s.calls = base) (operation.perform b t) fun r s =>
      ∃ calls state, s.calls = base ++ calls ∧ r.2 = { t with state } ∧
        Transaction.Proceeds t.isolation operation t.state calls r.1 state := by
  cases operation with
  | finish ending calling =>
    refine (t.triple_finish b calling base ending).bind ?_
    rintro ⟨result, t'⟩ s ⟨calls, hcalls, rfl, hproceeds⟩
    exact ⟨calls, .completed, hcalls, rfl, hproceeds⟩
  | use u =>
    -- the condition after the execution, before its result is wrapped
    let Q (r : Except ExecError Outcome × Option (Transaction κ)) (s : Session σ) : Prop :=
      ∃ calls state, s.calls = base ++ calls ∧ r.2 = some { t with state } ∧
        Transaction.Proceeds t.isolation (.use u) t.state calls (r.1.map some) state
    have hQ : ∀ r, Session.Unobserved (Q r) := by
      intro r
      exact Session.unobserved_calls fun all => ∃ calls state, all = base ++ calls ∧
        r.2 = some { t with state } ∧
        Transaction.Proceeds t.isolation (.use u) t.state calls (r.1.map some) state
    refine (Executable.triple_execute (Q := Q) (Session.unobserved_calls (· = base)) hQ
      ?_ ?_).bind ?_
    · intro e s hcommand hs
      have hrequest : u.request = .error e := by rw [Use.request, hcommand]; rfl
      exact ⟨[], t.state, by simpa using hs, rfl, .unresolved t.state hrequest⟩
    · intro command hcommand
      have hrequest : u.request = .ok (u.statement.built.request command) := by
        rw [Use.request, hcommand]; rfl
      refine (t.triple_send b u.calling base u.database _).bind ?_
      rintro ⟨answer, t'⟩ s ⟨calls, state, hcalls, rfl, hsends⟩
      exact ⟨calls, state, hcalls, rfl, .used hrequest hsends⟩
    · rintro ⟨result, t?, q⟩ s ⟨-, calls, state, hcalls, ht, hproceeds⟩
      have ht' : t? = some { t with state } := ht
      subst ht'
      exact ⟨calls, state, hcalls, rfl, hproceeds⟩

end TypedSql
