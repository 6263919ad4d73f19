import TypedSql.Proofs.Agreement
/-!
# What observers are told

An observer is told of each execution twice: before the first call and after the last one. In
between, requests make calls and log, but nobody is told of anything. An execution without
parameters for its slots fails before anybody is told.

## Main definitions

- `Session.Silent`: nothing was reported after an earlier time.
- `QueryExecuting.performed`: what is reported of an execution when it has a result.

## Main statements

- `Executable.triple_silent_dispatch`: requests report nothing.
- `Executable.exists_events_run`: the events of a command that is run.
- `observers_only_observe`: what observers are told of an execution, and that they change nothing.
-/

namespace TypedSql

variable {σ κ α : Type}

section Reports

/-- What is reported of an execution when it has a result. -/
def QueryExecuting.performed (executing : QueryExecuting) :
    Except ExecError Outcome → QueryPerformed
  | .ok outcome => ⟨executing, outcome.rowCount?, outcome.rowsAffected, none⟩
  | .error e => ⟨executing, none, 0, some e⟩

/-- What is logged of an execution when it has a result. -/
def QueryExecuting.logged (executing : QueryExecuting) : Except ExecError Outcome → LogEvent
  | .ok outcome =>
    .completed executing.kind outcome.rowCount? outcome.rowsAffected executing.debugName?
  | .error e => .failed executing.sql executing.kind executing.debugName? e

namespace Session

/-- After the events `base`, nothing was reported. -/
def Silent (base : List Event) (s : Session σ) : Prop :=
  ∃ events, s.events = base ++ events ∧ ∀ e ∈ events, e.report? = none

variable {base : List Event} {s : Session σ}

theorem Silent.start (s : Session σ) : Silent s.events s := ⟨[], by simp, by simp⟩

theorem Silent.append {events : List Event} {s' : Session σ} (h : Silent base s)
    (hs' : s'.events = s.events ++ events) (hevents : ∀ e ∈ events, e.report? = none) :
    Silent base s' := by
  obtain ⟨earlier, hs, hearlier⟩ := h
  refine ⟨earlier ++ events, ?_, List.forall_mem_append.2 ⟨hearlier, hevents⟩⟩
  rw [hs', hs, List.append_assoc]

theorem Silent.after (h : Silent base s) (r : Reply σ α) (database : Nat) (c : Call) :
    Silent base (s.after r database c) := by
  refine h.append (List.append_assoc ..) ?_
  rw [List.forall_mem_append, List.forall_mem_map]
  exact ⟨fun _ _ => rfl, by simp [Event.report?]⟩

theorem triple_silent_log (e : LogEvent) :
    Triple (Silent (σ := σ) base) (log e) fun _ => Silent base :=
  triple_record fun s hs => hs.append rfl (by simp [Event.report?])

variable (b : Backend σ κ) (calling : Calling)

theorem triple_silent_connect (db : Database) :
    Triple (Silent base) (connect b calling db) fun _ => Silent base := by
  refine triple_connect ?_ ?_
  · intro s e hs _
    exact hs.after _ _ _
  · intro s connection hs _
    exact hs.after (b.connect calling db.id s.backend) db.id (.opened s.opened)

theorem triple_silent_send (request : Request) (h : Handle κ) :
    Triple (Silent base) (send b calling request h) fun _ => Silent base :=
  triple_send fun _ hs => hs.after _ _ _

theorem triple_silent_release (h : Handle κ) :
    Triple (Silent base) (release b h) fun _ => Silent base :=
  triple_release fun _ hs => hs.after _ _ _

theorem triple_silent_sendAlone (db : Database) (request : Request) :
    Triple (Silent base) (sendAlone b calling db request) fun _ => Silent base := by
  refine (triple_silent_connect b calling db).bind fun opening => ?_
  cases opening with
  | error e => exact .pure fun s hs => hs
  | ok h =>
    refine (triple_silent_send b calling request h).bind fun r => ?_
    exact (triple_silent_release b r.2).bind fun _ => .pure fun s hs => hs

end Session

open Session (Triple Silent)

theorem Transaction.triple_silent_send (b : Backend σ κ) (calling : Calling) (t : Transaction κ)
    {base : List Event} (db : Database) (request : Request) :
    Triple (Silent base) (t.send b calling db request) fun _ => Silent base := by
  obtain ⟨isolation, state⟩ := t
  cases state with
  | completed => exact .pure fun s hs => hs
  | bound bound h =>
    simp only [send]
    cases bound.sameAs db with
    | false => exact .pure fun s hs => hs
    | true =>
      exact (Session.triple_silent_send b calling request h).bind fun _ => .pure fun s hs => hs
  | unbound =>
    -- the transaction is begun first, which makes calls and logs
    refine Triple.bind (Q := fun _ => Silent base) ?_ fun opening => ?_
    · refine (Session.triple_silent_connect b calling db).bind fun opening => ?_
      cases opening with
      | error e => exact .pure fun s hs => hs
      | ok h =>
        refine (Session.triple_silent_send b calling (.begin isolation) h).bind fun r => ?_
        obtain ⟨answer, h'⟩ := r
        cases answer with
        | error e =>
          exact (Session.triple_silent_release b h').bind fun _ => .pure fun s hs => hs
        | ok answer => exact (Session.triple_silent_log _).bind fun _ => .pure fun s hs => hs
    · cases opening with
      | error e => exact .pure fun s hs => hs
      | ok h =>
        exact (Session.triple_silent_send b calling request h).bind fun _ => .pure fun s hs => hs

namespace Executable

variable (b : Backend σ κ) (calling : Calling) (db : Database)

theorem triple_silent_dispatch {base : List Event} (request : Request)
    (t? : Option (Transaction κ)) :
    Triple (Silent base) (dispatch b calling db request t?) fun _ => Silent base := by
  cases t? with
  | none =>
    exact (Session.triple_silent_sendAlone b calling db request).bind fun _ => .pure fun s hs => hs
  | some t =>
    exact (t.triple_silent_send b calling db request).bind fun _ => .pure fun s hs => hs

theorem conclude_eq (executing : QueryExecuting) (result : Except ExecError Outcome) :
    conclude (σ := σ) db executing result = (do
      Session.log (executing.logged result)
      Session.notify db (.performed (executing.performed result))) := by
  cases result <;> rfl

/-- How an execution ends is reported between log entries. -/
theorem run_conclude {observer : Observer} (hobserver : db.observer? = some observer)
    (executing : QueryExecuting) (result : Except ExecError Outcome) (s : Session σ) :
    ∃ before after : List LogEvent, (conclude db executing result).run s =
      ((), s.recording (before.map .log
        ++ .report db.id (.performed (executing.performed result)) :: after.map .log)) := by
  have hlog : (Session.log (executing.logged result)).run s =
      ((), s.recording [.log (executing.logged result)]) := rfl
  obtain ⟨logs, -, hnotify⟩ := Session.run_notify_of_some hobserver
    (.performed (executing.performed result)) (s.recording [.log (executing.logged result)])
  refine ⟨[executing.logged result], logs, ?_⟩
  rw [conclude_eq, Session.run_bind hlog, hnotify]
  simp [Session.recording]

/-- What happens when a command is run that an observer is told of. -/
theorem exists_events_run {observer : Observer} (hobserver : db.observer? = some observer)
    (debugName? : Option String) (command : SqlCommand) (t? : Option (Transaction κ))
    (built : Built) (s : Session σ) :
    let executing : QueryExecuting :=
      ⟨db.name, command.sql, command.kind, t?.map (·.isolation), command.timeout?, debugName?⟩
    let r := (run b calling db debugName? command t? built).run s
    ∃ (before after : List LogEvent) (during : List Event),
      r.2.events = s.events ++ before.map .log ++ .report db.id (.executing executing) :: during
        ++ .report db.id (.performed (executing.performed r.1.1)) :: after.map .log ∧
      ∀ e ∈ during, e.report? = none := by
  intro executing
  let start : LogEvent :=
    .executing command.sql command.kind command.parameters.length debugName? db.name
  obtain ⟨logs, -, hnotify⟩ := Session.run_notify_of_some hobserver (.executing executing)
    (s.recording [.log start])
  have hlog : (Session.log start).run s = ((), s.recording [.log start]) := rfl
  -- the request is sent in between
  let told := (s.recording [.log start]).recording (.report db.id (.executing executing) ::
    logs.map .log)
  obtain ⟨⟨⟨answer, t'?⟩, s'⟩, hdispatch⟩ :
      ∃ r, (dispatch b calling db (built.request command) t?).run told = r := ⟨_, rfl⟩
  have hsilent := triple_silent_dispatch b calling db (built.request command) t? told (.start told)
  rw [hdispatch] at hsilent
  obtain ⟨events, hevents, hunreported⟩ := hsilent
  have hs' : s'.events = told.events ++ events := hevents
  obtain ⟨before, after, hconclude⟩ :=
    run_conclude db hobserver executing (answer.bind built.outcome) s'
  have hrun : (run b calling db debugName? command t? built).run s =
      ((answer.bind built.outcome, t'?), s'.recording (before.map .log ++ .report db.id
        (.performed (executing.performed (answer.bind built.outcome))) :: after.map .log)) := by
    rw [run, Session.run_bind hlog, Session.run_bind hnotify, Session.run_bind hdispatch]
    exact Session.run_bind hconclude _
  rw [hrun]
  refine ⟨[start], after, logs.map .log ++ events ++ before.map .log, ?_, ?_⟩
  · simp [Session.recording, hs', told]
  · simp only [List.forall_mem_append, List.forall_mem_map]
    exact ⟨⟨fun _ _ => rfl, hunreported⟩, fun _ _ => rfl⟩

theorem exists_run_compile (key : CompileKey) (q : Executable) (s : Session σ) :
    ∃ logs, (q.compile key).run s =
      (((q.cache.getOrCompile q.built.statement key).1, q.compiled key), s.logging logs) := by
  cases hfound : (q.cache.find? key).isNone with
  | false =>
    refine ⟨[], ?_⟩
    simp only [compile, hfound]
    simp [Session.logging]
    rfl
  | true =>
    refine ⟨[.cachingCompiled key.dialect key.mode
      (q.cache.getOrCompile q.built.statement key).1.sql], ?_⟩
    simp only [compile, hfound]
    rfl

/-- An execution runs its command if it has one, and otherwise fails at once. -/
theorem exists_run_execute (defaultMode : ParameterMode) (options : ExecuteOptions)
    (slots? : Option (List Value)) (t? : Option (Transaction κ)) (q : Executable)
    (s : Session σ) :
    ∃ q' logs, (q.execute b calling db defaultMode options slots? t?).run s =
      match q.command db defaultMode options slots? with
      | .error e => ((.error (.query e), t?, q'), s.logging logs)
      | .ok command =>
        let ((result, t'?), s') :=
          (run b calling db options.debugName? command t? q.built).run (s.logging logs)
        ((result, t'?, q'), s') := by
  obtain ⟨logs, hcompile⟩ :=
    exists_run_compile ⟨db.dialect, modeOf defaultMode options slots?⟩ q s
  refine ⟨q.compiled ⟨db.dialect, modeOf defaultMode options slots?⟩, logs, ?_⟩
  rw [execute, ← modeOf, Session.run_bind hcompile, command]
  cases hparameters : ((q.cache.getOrCompile q.built.statement
      ⟨db.dialect, modeOf defaultMode options slots?⟩).1).parameters (slots?.getD []) with
  | error e =>
    simp only [hparameters]
    rfl
  | ok parameters =>
    simp only [hparameters]
    rfl

end Executable

end Reports

/-- Observers observe and do not interfere. With or without them, an execution has the same result,
makes the same calls and leaves the transaction and the backend as they are; sessions differ in the
reports and in the entries for panics only. If there are parameters for it, an observer is told once
before the first call and once after the last one, the second time of the error if there is one, or
of the numbers of rows. If there are none, it is told nothing and no call is made. -/
theorem observers_only_observe (b : Backend σ κ) (calling : Calling) (db : Database)
    (defaultMode : ParameterMode) (options : ExecuteOptions) (slots? : Option (List Value))
    (t? : Option (Transaction κ)) (q : Executable) (s : Session σ) :
    let observed := (q.execute b calling db defaultMode options slots? t?).run s
    let alone := (q.execute b calling db.unobserved defaultMode options slots?
      (t?.map Transaction.unobserved)).run s
    (alone.1.1 = observed.1.1 ∧ alone.1.2.1 = observed.1.2.1.map Transaction.unobserved ∧
      alone.1.2.2 = observed.1.2.2 ∧ alone.2.calls = observed.2.calls ∧
      alone.2.unobserved = observed.2.unobserved) ∧
    match q.command db defaultMode options slots? with
    | .error e =>
      observed.1.1 = .error (.query e) ∧ observed.1.2.1 = t? ∧
        ∃ logs : List LogEvent, observed.2 = s.logging logs
    | .ok command => ∀ observer ∈ db.observer?,
      let executing : QueryExecuting := ⟨db.name, command.sql, command.kind,
        t?.map (·.isolation), command.timeout?, options.debugName?⟩
      ∃ (before after : List LogEvent) (during : List Event),
        observed.2.events = s.events ++ before.map .log
          ++ .report db.id (.executing executing) :: during
          ++ .report db.id (.performed (executing.performed observed.1.1)) :: after.map .log ∧
        ∀ e ∈ during, e.report? = none := by
  intro observed alone
  constructor
  · obtain ⟨hresult, hsession⟩ :=
      q.agree_execute b calling db defaultMode options slots? t? s s rfl
    have hcalls : alone.2.calls = observed.2.calls := by
      rw [← Session.calls_unobserved alone.2, ← Session.calls_unobserved observed.2]
      exact congrArg Session.calls hsession
    have halone : alone.1 =
        (observed.1.1, observed.1.2.1.map Transaction.unobserved, observed.1.2.2) := hresult
    rw [halone]
    exact ⟨rfl, rfl, rfl, hcalls, hsession⟩
  · obtain ⟨q', logs, hrun⟩ :=
      q.exists_run_execute b calling db defaultMode options slots? t? s
    have hobserved : observed = (q.execute b calling db defaultMode options slots? t?).run s := rfl
    rw [hrun] at hobserved
    cases hcommand : q.command db defaultMode options slots? with
    | error e =>
      rw [hcommand] at hobserved
      rw [hobserved]
      exact ⟨rfl, rfl, logs, rfl⟩
    | ok command =>
      intro observer hobserver
      have hevents := Executable.exists_events_run b calling db hobserver options.debugName?
        command t? q.built (s.logging logs)
      simp only [hcommand] at hobserved
      generalize (Executable.run b calling db options.debugName? command t? q.built).run
        (s.logging logs) = r at hevents hobserved
      obtain ⟨⟨result, t'?⟩, s'⟩ := r
      obtain ⟨before, after, during, hevents, hunreported⟩ := hevents
      refine ⟨logs ++ before, after, during, ?_, hunreported⟩
      rw [hobserved]
      simpa [Session.logging] using hevents

end TypedSql
