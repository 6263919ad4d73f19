import TypedSql.Proofs.OpenSlots
import TypedSql.Proofs.TransactionSteps
/-!
# Parameter modes and open slots

A statement that is not prepared can be executed with its values bound or written into its text.
Bound values are found before anything is sent, so that an open slot stops the execution. Values in
the text are not looked for again: a slot is written as a question mark, and the command is sent.

## Main statements

- `Executable.triple_run_calls`: running a command makes a call, or a transaction refuses it.
- `RunsCommand.not_stopsAtSlot`: a command that is run has not been stopped.
- `Executable.IsSound.runsInlined`: an execution with values in the text always runs its command.
- `modes_agree_iff`: the modes agree if and only if the statement has no slots.
-/

namespace TypedSql

open Session (Triple)

variable {σ κ : Type}

section Running

variable (b : Backend σ κ) (calling : Calling) (db : Database)

theorem triple_sendAlone_calls (request : Request) (base : List (Nat × Call)) :
    Triple (fun s : Session σ => s.calls = base) (Session.sendAlone b calling db request) fun _ s =>
      ∃ call calls, s.calls = base ++ call :: calls := by
  refine (Transaction.triple_connect_calls b calling base db).bind fun r => .of_or
    (.of_exists fun e => .of_fact ?_) (.of_exists fun n => .of_exists fun connection => .of_fact ?_)
  · rintro rfl
    exact .pure fun s hs => ⟨_, _, hs⟩
  rintro rfl
  refine (Transaction.triple_send_calls b calling (base ++ [(db.id, .opened n)]) request
    ⟨db.id, n, connection⟩).bind ?_
  rintro ⟨answer, h⟩
  refine .of_fact fun _ => ?_
  refine (Transaction.triple_release_calls b _ h).bind fun _ => .pure fun s hs => ?_
  exact ⟨_, _, by simpa using hs⟩

/-- Running a command makes a call, unless a transaction refuses it. That is no error of a query. -/
theorem Executable.triple_run_calls (debugName? : Option String) (command : SqlCommand)
    (t? : Option (Transaction κ)) (built : Built) (base : List (Nat × Call)) :
    Triple (fun s : Session σ => s.calls = base)
      (run b calling db debugName? command t? built) fun r s =>
        s.calls ≠ base ∨ ∀ e, r.1 ≠ .error (.query e) := by
  refine triple_run (Session.unobserved_calls (· = base))
    (fun r => Session.unobserved_calls fun calls => calls ≠ base ∨ ∀ e, r.1 ≠ .error (.query e)) ?_
  cases t? with
  | none =>
    refine (triple_sendAlone_calls b calling db (built.request command) base).bind fun answer => ?_
    refine .pure ?_
    rintro s ⟨call, calls, hcalls⟩
    exact .inl (by simp [hcalls])
  | some t =>
    refine (t.triple_send b calling base db (built.request command)).bind ?_
    rintro ⟨answer, t'⟩
    refine .pure ?_
    rintro s ⟨calls, state, hcalls, -, hsends⟩
    cases calls with
    | cons call calls => exact .inl (by simp [hcalls])
    | nil =>
      obtain rfl | ⟨bound, rfl⟩ := hsends.refused_of_calls_eq_nil
      · exact .inr fun e he => by cases he
      · exact .inr fun e he => by cases he

variable {b calling db} {debugName? : Option String} {command : SqlCommand}
variable {t? : Option (Transaction κ)} {built : Built} {execution : Execution σ κ}
variable {session : Session σ}

theorem Session.calls_logging (session : Session σ) (logs : List LogEvent) :
    (session.logging logs).calls = session.calls := by
  have hlogs : (logs.map Event.log).filterMap Event.call? = [] := by
    simp [List.filterMap_eq_nil_iff, Event.call?]
  rw [calls, logging, List.filterMap_append, hlogs, List.append_nil, calls]

/-- An execution that runs its command does not stop at a slot. -/
theorem RunsCommand.not_stopsAtSlot
    (h : RunsCommand b calling db debugName? t? built command execution session) (index : Nat) :
    ¬ StopsAtSlot index t? execution session := by
  rintro ⟨q', logs', hstops⟩
  obtain ⟨q, logs, hruns⟩ := h
  have hcalls := Executable.triple_run_calls b calling db debugName? command t? built session.calls
    (session.logging logs) (session.calls_logging logs)
  generalize (Executable.run b calling db debugName? command t? built).run
    (session.logging logs) = r at hruns hcalls
  obtain ⟨⟨result, t'?⟩, session'⟩ := r
  rw [hruns] at hstops
  obtain ⟨hresult, rfl⟩ := Prod.mk.inj hstops
  obtain hcalls | herror := hcalls
  · exact hcalls (session.calls_logging logs')
  · exact herror _ (congrArg Prod.fst hresult)

end Running

section Modes

variable {built : Built} {q : Executable}

/-- Values in the text leave nothing to be found: the execution runs its command, slots or not. -/
theorem Executable.IsSound.runsInlined (h : q.IsSound built) (b : Backend σ κ) (calling : Calling)
    (db : Database) (defaultMode : ParameterMode) (options : ExecuteOptions)
    (t? : Option (Transaction κ)) (hmode : modeOf defaultMode options none = .inline)
    (session : Session σ) :
    RunsCommand b calling db options.debugName? t? built
      ⟨(built.statement.render db.dialect).inlineSql db.dialect, built.statement.kind,
        options.timeout?.or db.timeout?, []⟩
      (q.execute b calling db defaultMode options none t?) session := by
  obtain ⟨q', logs, -, hrun⟩ := h.execute b calling db defaultMode options none t? session
  rw [hmode, StatementOf.compile_inline] at hrun
  exact ⟨q', logs, hrun⟩

/-- With its values in the text, a statement that is not prepared is always sent, with a question
mark for each slot. With its values bound it is sent if it has no slots, and otherwise fails at the
first one, without a call. So the modes agree on open slots if and only if there are none. -/
theorem modes_agree_iff (b : Backend σ κ) (calling : Calling) (db : Database)
    (options : ExecuteOptions) (t? : Option (Transaction κ)) (hq : q.ArisesFrom built)
    (defaultMode : ParameterMode) (session : Session σ) :
    let inlined :=
      q.execute b calling db defaultMode { options with mode? := some .inline } none t?
    let bound := q.execute b calling db defaultMode { options with mode? := some .bind } none t?
    let isClosed := ∀ p ∈ built.statement.leaves, p.isSlot = false
    RunsCommand b calling db options.debugName? t? built
      ⟨(built.statement.render db.dialect).inlineSql db.dialect, built.statement.kind,
        options.timeout?.or db.timeout?, []⟩ inlined session ∧
    (isClosed → ∃ sql parameters, RunsCommand b calling db options.debugName? t? built
      ⟨sql, built.statement.kind, options.timeout?.or db.timeout?, parameters⟩ bound session) ∧
    (¬ isClosed → ∃ before index type after,
      (built.statement.compile db.dialect .bind).bindings = before ++ .slot index type :: after ∧
      (∀ p ∈ before, p.isSlot = false) ∧ StopsAtSlot index t? bound session) ∧
    (((∃ index, StopsAtSlot index t? inlined session) ↔
      ∃ index, StopsAtSlot index t? bound session) ↔ isClosed) := by
  intro inlined bound isClosed
  have hsound := hq.isSound
  have hinlined := hsound.runsInlined b calling db defaultMode
    { options with mode? := some .inline } t? rfl session
  obtain ⟨hfound, hfails⟩ := built.statement.parameters_nil db.dialect
  have hruns : isClosed → ∃ sql parameters, RunsCommand b calling db options.debugName? t? built
      ⟨sql, built.statement.kind, options.timeout?.or db.timeout?, parameters⟩ bound session := by
    intro hclosed
    obtain ⟨parameters, hparameters⟩ := hfound hclosed
    exact ⟨_, parameters, hsound.runsCommand b calling db defaultMode
      { options with mode? := some .bind } none t? rfl
      (by rw [StatementOf.renderWith]; exact congrArg _ hparameters) session⟩
  have hstops : ¬ isClosed → ∃ before index type after,
      (built.statement.compile db.dialect .bind).bindings = before ++ .slot index type :: after ∧
      (∀ p ∈ before, p.isSlot = false) ∧ StopsAtSlot index t? bound session := by
    intro hopen
    obtain ⟨before, index, type, after, hbindings, hbefore, herror⟩ := hfails hopen
    exact ⟨before, index, type, after, hbindings, hbefore, hsound.stopsAtSlot b calling db
      defaultMode { options with mode? := some .bind } none t? rfl herror session⟩
  refine ⟨hinlined, hruns, hstops, ?_, ?_⟩
  · intro hagree
    by_contra hopen
    obtain ⟨before, index, type, after, -, -, hstop⟩ := hstops hopen
    obtain ⟨index', hstop'⟩ := hagree.2 ⟨index, hstop⟩
    exact hinlined.not_stopsAtSlot index' hstop'
  · intro hclosed
    obtain ⟨sql, parameters, hbound⟩ := hruns hclosed
    constructor
    · rintro ⟨index, hstop⟩
      exact absurd hstop (hinlined.not_stopsAtSlot index)
    · rintro ⟨index, hstop⟩
      exact absurd hstop (hbound.not_stopsAtSlot index)

/-- The selection that is prepared, executed without its preparation: with its values in the text it
is sent with three question marks, and with its values bound it is stopped at the slot that is
first in its text. -/
theorem modes_of_selectionBySlots :
    let db : Database := { id := 0, name := "main", dialect := .sqlServer }
    let session : Session Scripted := { backend := [] }
    let execution (mode : ParameterMode) :=
      ({ built := selectionBySlots } : Executable).execute Scripted.backend .blocking db .bind
        { mode? := some mode } none none
    RunsCommand Scripted.backend .blocking db none none selectionBySlots
      ⟨"SELECT _0.Id,? FROM Invoice AS _0 WHERE (_0.Id=?) AND (EXISTS(SELECT ?))", .select, none,
        []⟩
      (execution .inline) session ∧
    StopsAtSlot 1 none (execution .bind) session := by
  intro db session execution
  have hbindings : (selectionBySlots.statement.compile .sqlServer .bind).bindings =
      [.slot 1 .int, .slot 0 .int, .slot 1 .int] := by decide +kernel
  have hsql : (selectionBySlots.statement.render .sqlServer).inlineSql .sqlServer =
      "SELECT _0.Id,? FROM Invoice AS _0 WHERE (_0.Id=?) AND (EXISTS(SELECT ?))" := by
    decide +kernel
  have hopen : ¬ ∀ p ∈ selectionBySlots.statement.leaves, p.isSlot = false := by decide +kernel
  have hfresh : ({ built := selectionBySlots } : Executable).ArisesFrom selectionBySlots := .fresh
  obtain ⟨hinlined, -, hstops, -⟩ :=
    modes_agree_iff Scripted.backend .blocking db {} none hfresh .bind session
  refine ⟨hsql ▸ hinlined, ?_⟩
  obtain ⟨before, index, type, after, hsplit, hbefore, hstop⟩ := hstops hopen
  rw [hbindings] at hsplit
  cases before with
  | nil =>
    cases hsplit
    exact hstop
  | cons p before =>
    have hp := hbefore p List.mem_cons_self
    rw [← (List.cons.inj hsplit).1] at hp
    cases hp

/-- The insertion that returns a slot is sent in one mode and stopped in the other. -/
theorem modes_of_insertReturning_slot :
    let built : Built :=
      .query ⟨insertReturning (.slot 2 .int), [⟨.slot 2 .int, .native .int, false⟩]⟩
    let db : Database := { id := 0, name := "main", dialect := .postgres }
    let session : Session Scripted := { backend := [] }
    let execution (mode : ParameterMode) :=
      ({ built } : Executable).execute Scripted.backend .blocking db .bind { mode? := some mode }
        none none
    RunsCommand Scripted.backend .blocking db none none built
      ⟨"INSERT INTO \"Invoice\"(\"Id\") VALUES(1) RETURNING ?", .insert, none, []⟩
      (execution .inline) session ∧
    (∀ index, ¬ StopsAtSlot index none (execution .inline) session) ∧
    StopsAtSlot 2 none (execution .bind) session := by
  intro built db session execution
  have hsound : ({ built } : Executable).IsSound built := ⟨rfl, CompiledCache.Sound.empty _⟩
  have hsql : (built.statement.render .postgres).inlineSql .postgres =
      "INSERT INTO \"Invoice\"(\"Id\") VALUES(1) RETURNING ?" := by decide +kernel
  have hparameters : (built.statement.compile .postgres .bind).parameters [] =
      .error (.unboundParameter 2) := by decide +kernel
  have hinlined := hsound.runsInlined Scripted.backend .blocking db .bind
    { mode? := some .inline } none rfl session
  exact ⟨hsql ▸ hinlined, hinlined.not_stopsAtSlot,
    hsound.stopsAtSlot Scripted.backend .blocking db .bind { mode? := some .bind } none none rfl
      hparameters session⟩

end Modes

end TypedSql
