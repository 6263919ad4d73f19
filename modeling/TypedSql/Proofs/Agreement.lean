import TypedSql.Proofs.TransactionRuns
/-!
# Runs without observers

Observers have no part in what an execution does: without them, the calls, the result and the
transaction are the same. This is a statement about two runs at once, one with observers and one
without, and it is put together along the text of the computations like the triples for one run.

## Main definitions

- `Session.unobserved`: a session without what is there because of an observer.
- `Session.Agree`: two computations do the same but for what observers add.

## Main statements

- `Session.run_notify_of_some`: a report adds events and nothing else.
- `Executable.agree_execute`: an execution agrees with the one without observers.
- `Transaction.history_unobserved`: so does a whole run of a transaction.

## Design notes

A backend may log whatever it likes, also what an observer's panic is logged as. Such entries are
dropped on both sides, which changes nothing, since a backend does not see the events.
-/

namespace TypedSql

variable {σ κ α β γ δ : Type}

section Unobserved

/-- Whether an event is there because of an observer. -/
def Event.isOfObserver : Event → Bool
  | .report _ _ => true
  | .log (.hookPanicked _) => true
  | _ => false

/-- The session without the events that are there because of an observer. -/
def Session.unobserved (s : Session σ) : Session σ :=
  { s with events := s.events.filter fun e => !e.isOfObserver }

/-- The database without its observer. -/
def Database.unobserved (db : Database) : Database := { db with observer? := none }

/-- The state of a transaction whose database has no observer. -/
def TransactionState.unobserved : TransactionState κ → TransactionState κ
  | .bound database h => .bound database.unobserved h
  | state => state

/-- The transaction in this state. -/
def Transaction.unobserved (t : Transaction κ) : Transaction κ :=
  { t with state := t.state.unobserved }

end Unobserved

namespace Session

/-- On sessions that differ in nothing but what observers add, the computations have results that
differ in what `f` drops, and lead to sessions that differ in nothing else either. -/
def Agree (f : α → β) (x : SessionM σ α) (y : SessionM σ β) : Prop :=
  ∀ s s' : Session σ, s.unobserved = s'.unobserved →
    (y.run s').1 = f (x.run s).1 ∧ (y.run s').2.unobserved = (x.run s).2.unobserved

theorem Agree.pure {f : α → β} {a : α} :
    Agree f (Pure.pure a : SessionM σ α) (Pure.pure (f a)) := by
  intro s s' hs
  exact ⟨rfl, hs.symm⟩

theorem Agree.bind {f : α → β} {x : SessionM σ α} {y : SessionM σ β} {g : γ → δ}
    {k : α → SessionM σ γ} {k' : β → SessionM σ δ} (h : Agree f x y)
    (hk : ∀ a, Agree g (k a) (k' (f a))) : Agree g (x >>= k) (y >>= k') := by
  intro s s' hs
  obtain ⟨hresult, hs'⟩ := h s s' hs
  rw [StateT.run_bind, StateT.run_bind]
  show (StateT.run (k' (y.run s').1) (y.run s').2).1 = _ ∧
    (StateT.run (k' (y.run s').1) (y.run s').2).2.unobserved = _
  rw [hresult]
  exact hk _ _ _ hs'.symm

section Events

theorem unobserved_recording (s : Session σ) (events : List Event) :
    (s.recording events).unobserved =
      s.unobserved.recording (events.filter fun e => !e.isOfObserver) := by
  simp [unobserved, recording]

theorem agree_log (e : LogEvent) : Agree (σ := σ) id (log e) (log e) := by
  intro s s' hs
  refine ⟨rfl, ?_⟩
  show (s'.recording [.log e]).unobserved = (s.recording [.log e]).unobserved
  rw [unobserved_recording, unobserved_recording, hs]

theorem run_notify_of_none {db : Database} (h : db.observer? = none) (r : Report)
    (s : Session σ) : (notify db r).run s = ((), s) := by
  rw [notify, h]
  rfl

/-- An observer is told, and that it panics is logged. -/
theorem run_notify_of_some {db : Database} {observer : Observer} (h : db.observer? = some observer)
    (r : Report) (s : Session σ) :
    ∃ logs : List LogEvent, (∀ l ∈ logs, l = .hookPanicked r.hook) ∧
      (notify db r).run s = ((), s.recording (.report db.id r :: logs.map .log)) := by
  rw [notify, h]
  show ∃ logs : List LogEvent, _ ∧
    ((if observer.panics s.events r then log (.hookPanicked r.hook) else Pure.pure () :
      SessionM σ Unit).run (s.recording [.report db.id r])) = _
  cases observer.panics s.events r with
  | false => exact ⟨[], by simp, rfl⟩
  | true =>
    refine ⟨[.hookPanicked r.hook], by simp, ?_⟩
    show ((), (s.recording [.report db.id r]).recording [.log (.hookPanicked r.hook)]) = _
    simp [recording]

theorem unobserved_notify (db : Database) (r : Report) (s : Session σ) :
    ((notify db r).run s).2.unobserved = s.unobserved := by
  cases h : db.observer? with
  | none => rw [run_notify_of_none h]
  | some observer =>
    obtain ⟨logs, hlogs, hrun⟩ := run_notify_of_some h r s
    have hdropped : (.report db.id r :: logs.map Event.log).filter (fun e => !e.isOfObserver) =
        [] := by
      rw [List.filter_eq_nil_iff, List.forall_mem_cons, List.forall_mem_map]
      refine ⟨Bool.false_ne_true, ?_⟩
      intro l hl
      rw [hlogs l hl]
      exact Bool.false_ne_true
    rw [hrun, unobserved_recording, hdropped]
    simp [recording]

theorem agree_notify (db db' : Database) (r : Report) :
    Agree (σ := σ) id (notify db r) (notify db' r) := by
  intro s s' hs
  refine ⟨rfl, ?_⟩
  rw [unobserved_notify, unobserved_notify, hs]

end Events

section Calls

/-- The calls are all there without the observer. -/
theorem calls_unobserved (s : Session σ) : s.unobserved.calls = s.calls := by
  have hcalls : ∀ events : List Event,
      (events.filter fun e => !e.isOfObserver).filterMap Event.call? =
        events.filterMap Event.call? := by
    intro events
    rw [List.filterMap_filter]
    apply List.filterMap_congr
    intro e _
    cases e with
    | log e => cases e <;> rfl
    | call database c => rfl
    | report database r => rfl
  exact hcalls s.events

/-- What a call leaves depends on the session only through the backend and the events that are not
there because of an observer. -/
theorem unobserved_after {s s' : Session σ} (h : s.unobserved = s'.unobserved)
    (r : Reply σ α) (database : Nat) (c : Call) :
    (s.after r database c).unobserved = (s'.after r database c).unobserved := by
  obtain ⟨backend, opened, events⟩ := s
  obtain ⟨backend', opened', events'⟩ := s'
  simp only [unobserved, mk.injEq] at h
  obtain ⟨rfl, rfl, hevents⟩ := h
  simp [unobserved, after, hevents]

theorem backend_eq {s s' : Session σ} (h : s.unobserved = s'.unobserved) :
    s.backend = s'.backend := by
  show s.unobserved.backend = s'.unobserved.backend
  rw [h]

theorem opened_eq {s s' : Session σ} (h : s.unobserved = s'.unobserved) :
    s.opened = s'.opened := by
  show s.unobserved.opened = s'.unobserved.opened
  rw [h]

variable (b : Backend σ κ) (calling : Calling)

theorem agree_connect (db : Database) :
    Agree id (connect b calling db) (connect b calling db.unobserved) := by
  intro s s' hs
  have hafter := fun c => unobserved_after hs (b.connect calling db.id s.backend) db.id c
  rw [run_connect, run_connect]
  simp only [Database.unobserved, ← backend_eq hs, ← opened_eq hs]
  cases (b.connect calling db.id s.backend).answer with
  | error e => exact ⟨rfl, (hafter .refused).symm⟩
  | ok connection =>
    refine ⟨rfl, ?_⟩
    exact congrArg (fun after : Session σ => { after with opened := s.opened + 1 })
      (hafter (.opened s.opened)).symm

theorem run_send (request : Request) (h : Handle κ) (s : Session σ) :
    (send b calling request h).run s =
      let r := b.send calling request h.connection s.backend
      ((r.answer.1, { h with connection := r.answer.2 }),
        s.after r h.database (.sent h.number request r.answer.1.isOk)) := rfl

theorem agree_send (request : Request) (h : Handle κ) :
    Agree id (send b calling request h) (send b calling request h) := by
  intro s s' hs
  rw [run_send, run_send, ← backend_eq hs]
  exact ⟨rfl, (unobserved_after hs _ _ _).symm⟩

theorem run_release (h : Handle κ) (s : Session σ) :
    (release b h).run s =
      ((), s.after (b.release h.connection s.backend) h.database (.released h.number)) := rfl

theorem agree_release (h : Handle κ) : Agree id (release b h) (release b h) := by
  intro s s' hs
  rw [run_release, run_release, ← backend_eq hs]
  exact ⟨rfl, (unobserved_after hs _ _ _).symm⟩

theorem agree_sendAlone (db : Database) (request : Request) :
    Agree id (sendAlone b calling db request) (sendAlone b calling db.unobserved request) := by
  refine (agree_connect b calling db).bind fun opening => ?_
  cases opening with
  | error e => exact Agree.pure
  | ok h =>
    refine (agree_send b calling request h).bind fun r => ?_
    exact (agree_release b r.2).bind fun _ => Agree.pure

end Calls

end Session

open Session (Agree)

namespace Transaction

variable (b : Backend σ κ) (calling : Calling) (t : Transaction κ)

theorem agree_start (db : Database) :
    Agree id (t.start b calling db) (t.unobserved.start b calling db.unobserved) := by
  refine (Session.agree_connect b calling db).bind fun opening => ?_
  cases opening with
  | error e => exact Agree.pure
  | ok h =>
    refine (Session.agree_send b calling (.begin t.isolation) h).bind fun r => ?_
    obtain ⟨answer, h'⟩ := r
    cases answer with
    | error e => exact (Session.agree_release b h').bind fun _ => Agree.pure
    | ok answer =>
      exact (Session.agree_log (.transactionStarted db.name t.isolation)).bind fun _ =>
        Agree.pure

/-- Within a transaction, the database that it is bound to counts with its observer or without. -/
theorem agree_send (db : Database) (request : Request) :
    Agree (Prod.map id Transaction.unobserved) (t.send b calling db request)
      (t.unobserved.send b calling db.unobserved request) := by
  obtain ⟨isolation, state⟩ := t
  cases state with
  | completed => exact Agree.pure
  | bound bound h =>
    have hsameAs : bound.unobserved.sameAs db.unobserved = bound.sameAs db := rfl
    simp only [send, unobserved, TransactionState.unobserved, hsameAs]
    cases bound.sameAs db with
    | false => exact Agree.pure
    | true =>
      refine (Session.agree_send b calling request h).bind fun r => ?_
      exact Agree.pure
  | unbound =>
    refine (agree_start b calling ⟨isolation, .unbound⟩ db).bind fun opening => ?_
    cases opening with
    | error e => exact Agree.pure
    | ok h =>
      refine (Session.agree_send b calling request h).bind fun r => ?_
      exact Agree.pure

theorem agree_finish (ending : Ending) :
    Agree (Prod.map id Transaction.unobserved) (t.finish b calling ending)
      (t.unobserved.finish b calling ending) := by
  obtain ⟨isolation, state⟩ := t
  cases state with
  | completed => exact Agree.pure
  | unbound => exact Agree.pure
  | bound bound h =>
    refine (Session.agree_send b calling ending.request h).bind fun r => ?_
    obtain ⟨answer, h'⟩ := r
    cases answer with
    | error e => exact (Session.agree_release b h').bind fun _ => Agree.pure
    | ok answer =>
      refine (Session.agree_log (ending.logged bound.name)).bind fun _ => ?_
      exact (Session.agree_release b h').bind fun _ => Agree.pure

end Transaction

namespace Executable

variable (b : Backend σ κ) (calling : Calling) (db : Database)

theorem agree_dispatch (request : Request) (t? : Option (Transaction κ)) :
    Agree (Prod.map id (Option.map Transaction.unobserved))
      (dispatch b calling db request t?)
      (dispatch b calling db.unobserved request (t?.map Transaction.unobserved)) := by
  cases t? with
  | none =>
    refine (Session.agree_sendAlone b calling db request).bind fun answer => ?_
    exact Agree.pure
  | some t =>
    refine (t.agree_send b calling db request).bind fun r => ?_
    exact Agree.pure

theorem agree_compile (key : CompileKey) (q : Executable) :
    Agree (σ := σ) id (q.compile key) (q.compile key) := by
  cases hfound : (q.cache.find? key).isNone with
  | false =>
    simp only [compile, hfound]
    exact Agree.pure
  | true =>
    simp only [compile, hfound]
    exact (Session.agree_log _).bind fun _ => Agree.pure

theorem agree_conclude (executing : QueryExecuting) (result : Except ExecError Outcome) :
    Agree (σ := σ) id (conclude db executing result) (conclude db.unobserved executing result) := by
  cases result with
  | ok outcome =>
    exact (Session.agree_log _).bind fun _ => Session.agree_notify db db.unobserved _
  | error e =>
    exact (Session.agree_log _).bind fun _ => Session.agree_notify db db.unobserved _

theorem agree_run (debugName? : Option String) (command : SqlCommand)
    (t? : Option (Transaction κ)) (built : Built) :
    Agree (Prod.map id (Option.map Transaction.unobserved))
      (run b calling db debugName? command t? built)
      (run b calling db.unobserved debugName? command (t?.map Transaction.unobserved) built) := by
  have hisolation : (t?.map Transaction.unobserved).map (·.isolation) = t?.map (·.isolation) := by
    cases t? <;> rfl
  unfold run
  rw [hisolation]
  refine (Session.agree_log _).bind fun _ => ?_
  refine (Session.agree_notify db db.unobserved _).bind fun _ => ?_
  refine (agree_dispatch b calling db (built.request command) t?).bind fun r => ?_
  exact (agree_conclude db _ _).bind fun _ => Agree.pure

/-- An execution agrees with the one without observers. -/
theorem agree_execute (defaultMode : ParameterMode) (options : ExecuteOptions)
    (slots? : Option (List Value)) (t? : Option (Transaction κ)) (q : Executable) :
    Agree (Prod.map id (Prod.map (Option.map Transaction.unobserved) id))
      (q.execute b calling db defaultMode options slots? t?)
      (q.execute b calling db.unobserved defaultMode options slots?
        (t?.map Transaction.unobserved)) := by
  refine (agree_compile ⟨db.dialect, modeOf defaultMode options slots?⟩ q).bind fun r => ?_
  obtain ⟨c, q'⟩ := r
  cases hparameters : c.parameters (slots?.getD []) with
  | error e =>
    simp only [id, hparameters]
    exact Agree.pure
  | ok parameters =>
    simp only [id, hparameters]
    refine (agree_run b calling db options.debugName? _ t? q'.built).bind fun r => ?_
    exact Agree.pure

end Executable

section Histories

/-- The operation on databases without observers. -/
def Operation.unobserved : Operation → Operation
  | use u => .use { u with database := u.database.unobserved }
  | finish ending calling => .finish ending calling

/-- The step as it is without observers. -/
def Step.unobserved (step : Step κ) : Step κ :=
  { step with
    operation := step.operation.unobserved
    before := step.before.unobserved
    after := step.after.unobserved }

variable (b : Backend σ κ)

theorem Operation.agree_perform (t : Transaction κ) (operation : Operation) :
    Agree (Prod.map id Transaction.unobserved) (operation.perform b t)
      (operation.unobserved.perform b t.unobserved) := by
  cases operation with
  | use u =>
    refine (u.statement.agree_execute b u.calling u.database u.defaultMode u.options u.slots?
      (some t)).bind fun r => ?_
    obtain ⟨result, t'?, q⟩ := r
    cases t'? with
    | none => exact Agree.pure
    | some t' => exact Agree.pure
  | finish ending calling => exact (t.agree_finish b calling ending).bind fun r => Agree.pure

/-- A whole run of a transaction goes as it does without observers: each step makes the same calls,
has the same result and leaves the transaction in the same state. -/
theorem Transaction.history_unobserved (operations : List Operation) (t : Transaction κ)
    {s s' : Session σ} (h : s.unobserved = s'.unobserved) :
    let (steps, last, later) := history b operations t s
    let (steps', last', later') :=
      history b (operations.map Operation.unobserved) t.unobserved s'
    steps' = steps.map Step.unobserved ∧ last' = last.unobserved ∧
      later'.unobserved = later.unobserved := by
  induction operations generalizing t s s' with
  | nil => exact ⟨rfl, rfl, h.symm⟩
  | cons operation operations ih =>
    have hstep := operation.agree_perform b t s s' h
    simp only [history, List.map_cons]
    generalize (operation.perform b t).run s = r at hstep ⊢
    generalize (operation.unobserved.perform b t.unobserved).run s' = r' at hstep ⊢
    obtain ⟨⟨result, t₁⟩, s₁⟩ := r
    obtain ⟨⟨result', t₁'⟩, s₁'⟩ := r'
    obtain ⟨hresult, hs₁⟩ := hstep
    obtain ⟨rfl, rfl⟩ := Prod.mk.inj hresult
    obtain ⟨hsteps, hlast, hlater⟩ := ih t₁ hs₁.symm
    refine ⟨?_, hlast, hlater⟩
    have hcalls : s'.callsSince s₁' = s.callsSince s₁ := by
      rw [Session.callsSince, Session.callsSince, ← Session.calls_unobserved s₁',
        ← Session.calls_unobserved s', hs₁, ← h, Session.calls_unobserved,
        Session.calls_unobserved]
    exact List.cons_eq_cons.2 ⟨by rw [hcalls]; rfl, hsteps⟩

end Histories

end TypedSql
