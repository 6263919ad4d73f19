import TypedSql.Proofs.Prepared
/-!
# Triples for sessions

Statements about what a computation makes of a session, put together along its text. Log entries
and reports to observers stand between all requests; a condition that takes no notice of them passes
through, so that only the calls on the backend need an argument of their own.

## Main definitions

- `Session.Triple`: a computation takes each session with one condition to one with another.
- `Session.Unobserved`: a condition on sessions that takes no notice of log entries and reports.
- `Session.calls`: the calls among the events.
- `Executable.command`: what an execution is to send, once its parameters are found.

## Main statements

- `Session.Triple.bind`, `Session.Triple.weaken`: the rules for putting triples together.
- `Session.triple_connect`, `Session.triple_send`, `Session.triple_release`: the calls on a backend.
- `Executable.triple_execute`: an execution is a request between log entries and reports.
-/

namespace TypedSql

variable {σ κ α β : Type}

namespace Session

/-- From each session with the condition `P`, the computation leads to a result and a session with
the condition `Q`. -/
def Triple (P : Session σ → Prop) (x : SessionM σ α) (Q : α → Session σ → Prop) : Prop :=
  ∀ s, P s → Q (x.run s).1 (x.run s).2

variable {P P' : Session σ → Prop}

namespace Triple

variable {Q Q' : α → Session σ → Prop}

theorem weaken {x : SessionM σ α} (h : Triple P x Q) (hP : ∀ s, P' s → P s)
    (hQ : ∀ a s, Q a s → Q' a s) : Triple P' x Q' := by
  intro s hs
  exact hQ _ _ (h s (hP s hs))

theorem pure {a : α} (h : ∀ s, P s → Q a s) : Triple P (Pure.pure a : SessionM σ α) Q := by
  intro s hs
  exact h s hs

theorem bind {x : SessionM σ α} {f : α → SessionM σ β} {R : β → Session σ → Prop}
    (hx : Triple P x Q) (hf : ∀ a, Triple (Q a) (f a) R) : Triple P (x >>= f) R := by
  intro s hs
  rw [StateT.run_bind]
  exact hf _ _ (hx s hs)

/-- A fact about no session may be used in what comes after. -/
theorem of_fact {p : Prop} {x : SessionM σ α} (h : p → Triple P x Q) :
    Triple (fun s => p ∧ P s) x Q := by
  rintro s ⟨hp, hs⟩
  exact h hp s hs

theorem of_exists {ι : Sort*} {P : ι → Session σ → Prop} {x : SessionM σ α}
    (h : ∀ i, Triple (P i) x Q) : Triple (fun s => ∃ i, P i s) x Q := by
  rintro s ⟨i, hs⟩
  exact h i s hs

theorem of_or {x : SessionM σ α} (h : Triple P x Q) (h' : Triple P' x Q) :
    Triple (fun s => P s ∨ P' s) x Q := by
  rintro s (hs | hs)
  · exact h s hs
  · exact h' s hs

end Triple

section Events

/-- The session with more events. -/
def recording (s : Session σ) (events : List Event) : Session σ :=
  { s with events := s.events ++ events }

/-- A condition that still holds after log entries and reports. -/
def Unobserved (P : Session σ → Prop) : Prop :=
  ∀ s events, (∀ e ∈ events, e.call? = none) → P s → P (s.recording events)

theorem triple_record {Q : Unit → Session σ → Prop} {e : Event}
    (h : ∀ s, P s → Q () (s.recording [e])) : Triple P (record e) Q := by
  intro s hs
  exact h s hs

theorem triple_log (h : Unobserved P) (e : LogEvent) : Triple P (log e) fun _ => P := by
  refine triple_record fun s hs => h s [.log e] ?_ hs
  simp [Event.call?]

/-- A report passes a condition on that takes no notice of it, even if the observer panics. -/
theorem triple_notify (h : Unobserved P) (db : Database) (r : Report) :
    Triple P (notify db r) fun _ => P := by
  unfold notify
  cases db.observer? with
  | none => exact Triple.pure fun _ hs => hs
  | some observer =>
    have hget : Triple P (get : SessionM σ (Session σ)) fun _ => P := fun s hs => hs
    refine hget.bind fun before => ?_
    refine Triple.bind (Q := fun _ => P) ?_ fun _ => ?_
    · refine triple_record fun s hs => h s [.report db.id r] ?_ hs
      simp [Event.call?]
    · cases observer.panics before.events r with
      | false => exact Triple.pure fun _ hs => hs
      | true => exact triple_log h _

end Events

section Calls

/-- The calls among the events, with their databases. -/
def calls (s : Session σ) : List (Nat × Call) := s.events.filterMap Event.call?

theorem calls_recording (s : Session σ) (events : List Event) :
    (s.recording events).calls = s.calls ++ events.filterMap Event.call? := by
  rw [calls, recording, List.filterMap_append, calls]

theorem unobserved_calls (R : List (Nat × Call) → Prop) :
    Unobserved fun s : Session σ => R s.calls := by
  intro s events hevents hs
  have hnone : events.filterMap Event.call? = [] := List.filterMap_eq_nil_iff.2 hevents
  show R (s.recording events).calls
  rw [calls_recording, hnone, List.append_nil]
  exact hs

theorem unobserved_backend (R : σ → Prop) : Unobserved fun s : Session σ => R s.backend :=
  fun _ _ _ hs => hs

/-- What a call on the backend leaves of the session, with the call noted. -/
def after {α : Type} (s : Session σ) (r : Reply σ α) (database : Nat) (c : Call) : Session σ :=
  { s with
    backend := r.state
    events := s.events ++ r.log.map .log ++ [.call database c] }

@[simp]
theorem calls_after (s : Session σ) (r : Reply σ α) (database : Nat) (c : Call) :
    (s.after r database c).calls = s.calls ++ [(database, c)] := by
  have hlog : (r.log.map Event.log).filterMap Event.call? = [] := by
    simp [List.filterMap_eq_nil_iff, Event.call?]
  simp [calls, after, hlog, Event.call?]

/-- Opening a connection either fails, or yields one with the next number. -/
theorem run_connect (b : Backend σ κ) (calling : Calling) (db : Database) (s : Session σ) :
    (connect b calling db).run s =
      let r := b.connect calling db.id s.backend
      match r.answer with
      | .error e => (.error e, s.after r db.id .refused)
      | .ok connection => (.ok ⟨db.id, s.opened, connection⟩,
          { s.after r db.id (.opened s.opened) with opened := s.opened + 1 }) := by
  have hperform : (perform (b.connect calling db.id)).run s =
      ((b.connect calling db.id s.backend).answer, { s with
        backend := (b.connect calling db.id s.backend).state
        events := s.events ++ (b.connect calling db.id s.backend).log.map .log }) := rfl
  rw [connect, run_bind hperform]
  generalize b.connect calling db.id s.backend = r
  obtain ⟨answer, state, log⟩ := r
  cases answer with
  | error e => rfl
  | ok connection => rfl

theorem triple_connect {b : Backend σ κ} {calling : Calling} {db : Database}
    {Q : Except ExecError (Handle κ) → Session σ → Prop}
    (herror : ∀ s e, P s → (b.connect calling db.id s.backend).answer = .error e →
      Q (.error e) (s.after (b.connect calling db.id s.backend) db.id .refused))
    (hok : ∀ s connection, P s → (b.connect calling db.id s.backend).answer = .ok connection →
      Q (.ok ⟨db.id, s.opened, connection⟩)
        { s.after (b.connect calling db.id s.backend) db.id (.opened s.opened) with
          opened := s.opened + 1 }) : Triple P (connect b calling db) Q := by
  intro s hs
  rw [run_connect]
  cases hanswer : (b.connect calling db.id s.backend).answer with
  | error e => simpa [hanswer] using herror s e hs hanswer
  | ok connection => simpa [hanswer] using hok s connection hs hanswer

theorem triple_send {b : Backend σ κ} {calling : Calling} {request : Request} {h : Handle κ}
    {Q : Except ExecError ResultSet × Handle κ → Session σ → Prop}
    (hQ : ∀ s, P s →
      let r := b.send calling request h.connection s.backend
      Q (r.answer.1, { h with connection := r.answer.2 })
        (s.after r h.database (.sent h.number request r.answer.1.isOk))) :
    Triple P (send b calling request h) Q := by
  intro s hs
  exact hQ s hs

theorem triple_release {b : Backend σ κ} {h : Handle κ} {Q : Unit → Session σ → Prop}
    (hQ : ∀ s, P s →
      Q () (s.after (b.release h.connection s.backend) h.database (.released h.number))) :
    Triple P (release b h) Q := by
  intro s hs
  exact hQ s hs

end Calls

end Session

namespace Executable

open Session (Triple Unobserved)

/-- What an execution sends if there is a value for each slot. -/
def command (db : Database) (defaultMode : ParameterMode) (options : ExecuteOptions)
    (slots? : Option (List Value)) (q : Executable) : Except QueryError SqlCommand :=
  let key : CompileKey := ⟨db.dialect, modeOf defaultMode options slots?⟩
  let c := (q.cache.getOrCompile q.built.statement key).1
  (c.parameters (slots?.getD [])).map fun parameters =>
    ⟨c.sql, q.built.statement.kind, options.timeout?.or db.timeout?, parameters⟩

/-- The executable with a rendering for a key among those made. -/
def compiled (key : CompileKey) (q : Executable) : Executable :=
  { q with cache := (q.cache.getOrCompile q.built.statement key).2 }

variable {P : Session σ → Prop}

theorem triple_compile (h : Unobserved P) (key : CompileKey) (q : Executable) :
    Triple P (q.compile key) fun r s =>
      r = ((q.cache.getOrCompile q.built.statement key).1, q.compiled key) ∧ P s := by
  cases hfound : (q.cache.find? key).isNone with
  | false =>
    simp only [compile, hfound]
    exact Triple.pure fun s hs => ⟨rfl, hs⟩
  | true =>
    simp only [compile, hfound]
    exact (Session.triple_log h _).bind fun _ => Triple.pure fun s hs => ⟨rfl, hs⟩

theorem triple_conclude (h : Unobserved P) (db : Database) (executing : QueryExecuting)
    (result : Except ExecError Outcome) :
    Triple P (conclude (σ := σ) db executing result) fun _ => P := by
  cases result with
  | error e => exact (Session.triple_log h _).bind fun _ => Session.triple_notify h db _
  | ok outcome => exact (Session.triple_log h _).bind fun _ => Session.triple_notify h db _

variable {b : Backend σ κ} {calling : Calling} {db : Database}
variable {Q : Except ExecError Outcome × Option (Transaction κ) → Session σ → Prop}

/-- Running a command is a request between log entries and reports. -/
theorem triple_run {debugName? : Option String} {command : SqlCommand}
    {t? : Option (Transaction κ)} {built : Built} (hP : Unobserved P) (hQ : ∀ a, Unobserved (Q a))
    (h : Triple P (dispatch b calling db (built.request command) t?) fun r =>
      Q (r.1.bind built.outcome, r.2)) :
    Triple P (run b calling db debugName? command t? built) Q := by
  unfold run
  refine (Session.triple_log hP _).bind fun _ => (Session.triple_notify hP db _).bind fun _ => ?_
  refine h.bind fun r => ?_
  obtain ⟨answer, t'?⟩ := r
  exact (triple_conclude (hQ _) db _ _).bind fun _ => Triple.pure fun _ hs => hs

/-- An execution fails without a call if a slot has no value, and is a request between log entries
and reports otherwise. -/
theorem triple_execute {defaultMode : ParameterMode} {options : ExecuteOptions}
    {slots? : Option (List Value)} {t? : Option (Transaction κ)} {q : Executable}
    (hP : Unobserved P) (hQ : ∀ a, Unobserved (Q a))
    (herror : ∀ e s, q.command db defaultMode options slots? = .error e → P s →
      Q (.error (.query e), t?) s)
    (hok : ∀ command, q.command db defaultMode options slots? = .ok command →
      Triple P (dispatch b calling db (q.built.request command) t?) fun r =>
        Q (r.1.bind q.built.outcome, r.2)) :
    Triple P (q.execute b calling db defaultMode options slots? t?) fun r s =>
      r.2.2 = q.compiled ⟨db.dialect, modeOf defaultMode options slots?⟩ ∧ Q (r.1, r.2.1) s := by
  rw [execute, ← modeOf]
  refine (triple_compile hP _ q).bind fun r => Triple.of_fact ?_
  rintro rfl
  cases hparameters : ((q.cache.getOrCompile q.built.statement
      ⟨db.dialect, modeOf defaultMode options slots?⟩).1).parameters (slots?.getD []) with
  | error e =>
    have hcommand : q.command db defaultMode options slots? = .error e := by
      simp only [command, hparameters, Except.map]
    simp only [hparameters]
    exact Triple.pure fun s hs => ⟨rfl, herror e s hcommand hs⟩
  | ok parameters =>
    have hcommand : q.command db defaultMode options slots? =
        .ok ⟨((q.cache.getOrCompile q.built.statement
          ⟨db.dialect, modeOf defaultMode options slots?⟩).1).sql, q.built.statement.kind,
          options.timeout?.or db.timeout?, parameters⟩ := by
      simp only [command, hparameters, Except.map]
    simp only [hparameters]
    refine (triple_run hP hQ (hok _ hcommand)).bind fun r => ?_
    exact Triple.pure fun s hs => ⟨rfl, hs⟩

end Executable

end TypedSql
