import TypedSql.Execution.Execute
import TypedSql.Execution.Scripted
import TypedSql.Proofs.Replacement
import TypedSql.Proofs.Resolution
/-!
# Prepared statements

A prepared statement is rendered once and takes the values of its slots with each execution. What
it sends is what the same statement would send with the values written in the places of the slots,
whatever was rendered or executed before. A slot without a value is found before any call is made.

## Main definitions

- `StatementOf.fillSlots`: the statement with the values in the places of its slots.
- `CompiledCache.Sound`: a cache holds only what would be rendered now.
- `Executable.ArisesFrom`: what a built statement becomes by being rendered and executed.
- `RunsCommand`, `StopsAtSlot`: how an execution ends, apart from what it logs.

## Main statements

- `Executable.ArisesFrom.isSound`: no history makes a rendering stale.
- `prepared_runs_as_filled`: a prepared statement against the one with its slots filled.

## Design notes

The cache is part of the executable, so the history of an executable is a sequence of renderings
and executions on any backends. The invariant of one such step carries over to all histories.
-/

namespace TypedSql

section Filling

variable (slots : List Value)

/-- The binding with the value of its slot, if it is a slot that has one. -/
def Binding.filled : Binding → Binding
  | fixed type v => .fixed type v
  | slot index type =>
    match slots[index]? with
    | some v => .fixed type v
    | none => .slot index type

/-- The statement with the values in the places of its slots, at any depth. -/
def StatementOf.fillSlots (s : Statement) : Statement := s.mapBindings (Binding.filled slots)

/-- The built statement with the values in the places of its slots. It yields the same fields. -/
def Built.fillSlots : Built → Built
  | query q => .query { q with statement := q.statement.fillSlots slots }
  | command c => .command ⟨c.statement.fillSlots slots⟩

theorem StatementOf.kind_fillSlots (s : Statement) : (s.fillSlots slots).kind = s.kind := by
  cases s <;> rfl

theorem Built.statement_fillSlots (built : Built) :
    (built.fillSlots slots).statement = built.statement.fillSlots slots := by
  cases built <;> rfl

theorem Built.request_fillSlots (built : Built) :
    (built.fillSlots slots).request = built.request := by
  cases built <;> rfl

theorem Built.outcome_fillSlots (built : Built) :
    (built.fillSlots slots).outcome = built.outcome := by
  cases built <;> rfl

namespace Binding

/-- A filled binding needs no slots for the parameter that the binding yields with them. -/
theorem parameter_filled (name : String) (b : Binding) :
    (b.filled slots).parameter name [] = b.parameter name slots := by
  cases b with
  | fixed type v => rfl
  | slot index type =>
    cases hslot : slots[index]? with
    | none => simp [filled, parameter, hslot]
    | some v => simp [filled, parameter, hslot]

theorem resolveFrom_filled (style : PlaceholderStyle) (position : Nat) (bindings : List Binding) :
    resolveFrom style [] position (bindings.map (filled slots)) =
      resolveFrom style slots position bindings := by
  induction bindings generalizing position with
  | nil => rfl
  | cons b rest ih => rw [List.map_cons, resolveFrom, resolveFrom, parameter_filled, ih]

end Binding

/-- Filling the slots in the statement or handing their values over with the execution gives one
text and one list of parameters. -/
theorem StatementOf.renderWith_fillSlots (d : Dialect) (s : Statement) :
    (s.fillSlots slots).renderWith d [] = s.renderWith d slots := by
  have hcompiled := compile_mapBindings (Binding.filled slots) d s
  rw [renderWith, renderWith, fillSlots, hcompiled, Compiled.parameters, Compiled.parameters,
    Binding.resolve, Binding.resolve, Binding.resolveFrom_filled]

end Filling

section Caching

/-- Every rendering in the cache is the one that would be made now. -/
def CompiledCache.Sound (s : Statement) (cache : CompiledCache) : Prop :=
  ∀ key c, cache.find? key = some c → c = s.compile key.dialect key.mode

namespace CompiledCache

variable {s : Statement} {cache : CompiledCache}

theorem lookup_filter_ne (entries : List (CompileKey × Compiled)) (key key' : CompileKey) :
    (entries.filter fun entry => entry.1 ≠ key).lookup key' =
      if key' = key then none else entries.lookup key' := by
  induction entries with
  | nil => simp
  | cons entry rest ih =>
    obtain ⟨k, c⟩ := entry
    by_cases hk : k = key
    · by_cases hkey : key' = key
      · simpa [hk, hkey] using ih
      · have hne : (key' == k) = false := by simpa [hk] using hkey
        simpa [hk, hkey, List.lookup_cons, beq_false_of_ne hkey] using ih
    · by_cases hkey' : key' = k
      · have hkey : key' ≠ key := fun h => hk (hkey' ▸ h)
        simp [hk, hkey']
      · simpa [hk, List.lookup_cons, beq_false_of_ne hkey'] using ih

theorem find?_insert (cache : CompiledCache) (key key' : CompileKey) (c : Compiled) :
    (cache.insert key c).find? key' = if key' = key then some c else cache.find? key' := by
  rw [insert, find?, List.lookup_append, lookup_filter_ne]
  by_cases hkey : key' = key
  · simp [hkey]
  · simp [hkey, find?, List.lookup_cons, beq_false_of_ne hkey]

theorem Sound.empty (s : Statement) : Sound s {} := by
  intro key c h
  cases h

theorem Sound.insert (h : cache.Sound s) (key : CompileKey) :
    (cache.insert key (s.compile key.dialect key.mode)).Sound s := by
  intro key' c hc
  rw [find?_insert] at hc
  by_cases hkey : key' = key
  · rw [if_pos hkey] at hc
    cases hc
    rw [hkey]
  · rw [if_neg hkey] at hc
    exact h key' c hc

/-- A sound cache answers with the rendering that would be made now, and stays sound. -/
theorem Sound.getOrCompile (h : cache.Sound s) (key : CompileKey) :
    (cache.getOrCompile s key).1 = s.compile key.dialect key.mode ∧
      (cache.getOrCompile s key).2.Sound s := by
  cases hfound : cache.find? key with
  | some c =>
    rw [CompiledCache.getOrCompile, hfound]
    exact ⟨h key c hfound, h⟩
  | none =>
    rw [CompiledCache.getOrCompile, hfound]
    exact ⟨rfl, h.insert key⟩

end CompiledCache

end Caching

section Histories

variable {σ κ : Type}

/-- The session with more entries in its log. -/
def Session.logging (session : Session σ) (logs : List LogEvent) : Session σ :=
  { session with events := session.events ++ logs.map .log }

theorem Session.run_bind {α β : Type} {x : SessionM σ α} {session session' : Session σ} {a : α}
    (h : x.run session = (a, session')) (f : α → SessionM σ β) :
    (x >>= f).run session = (f a).run session' := by
  rw [StateT.run_bind, h]
  rfl

namespace Executable

/-- An executable of a statement whose renderings are those that would be made now. -/
structure IsSound (built : Built) (q : Executable) : Prop where
  built_eq : q.built = built
  cache_sound : q.cache.Sound built.statement

/-- What a built statement becomes by being rendered and executed. -/
inductive ArisesFrom (built : Built) : Executable → Prop where
  | fresh : ArisesFrom built { built }
  | compiled {σ : Type} {q : Executable} (key : CompileKey) (session : Session σ) :
      ArisesFrom built q → ArisesFrom built ((q.compile key).run session).1.2
  | rendered {σ : Type} {q : Executable} (d : Dialect) (slots : List Value)
      (session : Session σ) :
      ArisesFrom built q → ArisesFrom built ((q.render d slots).run session).1.2
  | executed {σ κ : Type} {q : Executable} (b : Backend σ κ) (calling : Calling) (db : Database)
      (defaultMode : ParameterMode) (options : ExecuteOptions) (slots? : Option (List Value))
      (t? : Option (Transaction κ)) (session : Session σ) :
      ArisesFrom built q →
        ArisesFrom built ((q.execute b calling db defaultMode options slots? t?).run session).1.2.2

variable {built : Built} {q : Executable}

/-- Rendering a sound executable gives what would be rendered now, and at most logs that it did. -/
theorem IsSound.compile (h : q.IsSound built) (key : CompileKey) (session : Session σ) :
    ∃ q' logs, q'.IsSound built ∧ (q.compile key).run session =
      ((built.statement.compile key.dialect key.mode, q'), session.logging logs) := by
  obtain ⟨built', cache⟩ := q
  obtain ⟨rfl, hcache⟩ := h
  obtain ⟨hcompiled, hsound⟩ := hcache.getOrCompile key
  refine ⟨⟨built', (cache.getOrCompile built'.statement key).2⟩, ?_⟩
  cases hfound : cache.find? key with
  | some c =>
    refine ⟨[], ⟨rfl, hsound⟩, ?_⟩
    rw [← hcompiled]
    simp [Executable.compile, hfound, Session.logging]
    rfl
  | none =>
    -- only a rendering that was not in the cache is logged
    refine ⟨[.cachingCompiled key.dialect key.mode (cache.getOrCompile built'.statement key).1.sql],
      ⟨rfl, hsound⟩, ?_⟩
    rw [← hcompiled]
    simp [Executable.compile, hfound, Session.logging]
    rfl

/-- A prepared text and its parameters are those of a fresh rendering. -/
theorem IsSound.render (h : q.IsSound built) (d : Dialect) (slots : List Value)
    (session : Session σ) :
    ∃ q' logs, q'.IsSound built ∧ (q.render d slots).run session =
      ((built.statement.renderWith d slots, q'), session.logging logs) := by
  obtain ⟨q', logs, hq', hrun⟩ := h.compile ⟨d, .bind⟩ session
  refine ⟨q', logs, hq', ?_⟩
  rw [Executable.render, Session.run_bind hrun]
  rfl

/-- How a statement is sent: a prepared one binds its values, otherwise the options or the default
of the process decide. -/
def modeOf (defaultMode : ParameterMode) (options : ExecuteOptions)
    (slots? : Option (List Value)) : ParameterMode :=
  if slots?.isSome then .bind else options.mode?.getD defaultMode

/-- An execution takes its text and its bindings from a rendering that is as good as a fresh one.
Then it either finds a slot without a value and stops, or runs the command. -/
theorem IsSound.execute (h : q.IsSound built) (b : Backend σ κ) (calling : Calling)
    (db : Database) (defaultMode : ParameterMode) (options : ExecuteOptions)
    (slots? : Option (List Value)) (t? : Option (Transaction κ)) (session : Session σ) :
    let c := built.statement.compile db.dialect (modeOf defaultMode options slots?)
    ∃ q' logs, q'.IsSound built ∧
      (q.execute b calling db defaultMode options slots? t?).run session =
        match c.parameters (slots?.getD []) with
        | .error e => ((.error (.query e), t?, q'), session.logging logs)
        | .ok parameters =>
          let command : SqlCommand :=
            ⟨c.sql, built.statement.kind, options.timeout?.or db.timeout?, parameters⟩
          let ((result, t?), session) :=
            (run b calling db options.debugName? command t? built).run (session.logging logs)
          ((result, t?, q'), session) := by
  obtain ⟨q', logs, hq', hrun⟩ := h.compile ⟨db.dialect, modeOf defaultMode options slots?⟩ session
  refine ⟨q', logs, hq', ?_⟩
  rw [Executable.execute, ← modeOf, Session.run_bind hrun]
  simp only [hq'.built_eq]
  cases (built.statement.compile db.dialect (modeOf defaultMode options slots?)).parameters
      (slots?.getD []) with
  | error e => rfl
  | ok parameters => rfl

/-- Whatever was rendered and executed before, an executable answers with what a new one would
render. -/
theorem ArisesFrom.isSound (h : q.ArisesFrom built) : q.IsSound built := by
  induction h with
  | fresh => exact ⟨rfl, CompiledCache.Sound.empty built.statement⟩
  | compiled key session _ ih =>
    obtain ⟨q', logs, hq', hrun⟩ := ih.compile key session
    rw [hrun]
    exact hq'
  | rendered d slots session _ ih =>
    obtain ⟨q', logs, hq', hrun⟩ := ih.render d slots session
    rw [hrun]
    exact hq'
  | executed b calling db defaultMode options slots? t? session _ ih =>
    obtain ⟨q', logs, hq', hrun⟩ :=
      ih.execute b calling db defaultMode options slots? t? session
    rw [hrun]
    split
    · exact hq'
    · exact hq'

end Executable

section Execution

/-- What an execution yields: its outcome, the transaction and the executable after it. -/
abbrev Execution (σ κ : Type) :=
  SessionM σ (Except ExecError Outcome × Option (Transaction κ) × Executable)

/-- The execution runs the command, after at most an entry to the log. -/
def RunsCommand (b : Backend σ κ) (calling : Calling) (db : Database)
    (debugName? : Option String) (t? : Option (Transaction κ)) (built : Built)
    (command : SqlCommand) (execution : Execution σ κ) (session : Session σ) : Prop :=
  ∃ q logs, execution.run session =
    let ((result, t?), session) :=
      (Executable.run b calling db debugName? command t? built).run (session.logging logs)
    ((result, t?, q), session)

/-- The execution fails for want of a value for a slot. The transaction is as it was, and so is the
session but for entries to the log: no call is made. -/
def StopsAtSlot (index : Nat) (t? : Option (Transaction κ)) (execution : Execution σ κ)
    (session : Session σ) : Prop :=
  ∃ q logs, execution.run session =
    ((.error (.query (.unboundParameter index)), t?, q), session.logging logs)

variable (b : Backend σ κ) (calling : Calling) (db : Database)
variable {built : Built} {q : Executable}

/-- What is run does not depend on the slots once they are filled. -/
theorem Executable.run_fillSlots (debugName? : Option String) (command : SqlCommand)
    (t? : Option (Transaction κ)) (built : Built) (slots : List Value) :
    run b calling db debugName? command t? (built.fillSlots slots) =
      run b calling db debugName? command t? built := by
  simp only [run, Built.request_fillSlots, Built.outcome_fillSlots]

/-- An execution in bind mode runs the command that a fresh rendering yields. -/
theorem Executable.IsSound.runsCommand (h : q.IsSound built) (defaultMode : ParameterMode)
    (options : ExecuteOptions) (slots? : Option (List Value)) (t? : Option (Transaction κ))
    (hmode : modeOf defaultMode options slots? = .bind) {sql : String}
    {parameters : List Parameter}
    (hrender : built.statement.renderWith db.dialect (slots?.getD []) = .ok (sql, parameters))
    (session : Session σ) :
    RunsCommand b calling db options.debugName? t? built
      ⟨sql, built.statement.kind, options.timeout?.or db.timeout?, parameters⟩
      (q.execute b calling db defaultMode options slots? t?) session := by
  obtain ⟨q', logs, -, hrun⟩ := h.execute b calling db defaultMode options slots? t? session
  rw [hmode] at hrun
  refine ⟨q', logs, ?_⟩
  cases hresolved : (built.statement.compile db.dialect .bind).parameters (slots?.getD []) with
  | error e =>
    rw [StatementOf.renderWith, hresolved] at hrender
    cases hrender
  | ok ps =>
    rw [StatementOf.renderWith, hresolved] at hrender
    cases hrender
    rw [hrun, hresolved]

/-- An execution in bind mode stops where a fresh rendering finds a slot without a value. -/
theorem Executable.IsSound.stopsAtSlot (h : q.IsSound built) (defaultMode : ParameterMode)
    (options : ExecuteOptions) (slots? : Option (List Value)) (t? : Option (Transaction κ))
    (hmode : modeOf defaultMode options slots? = .bind) {index : Nat}
    (hparameters : (built.statement.compile db.dialect .bind).parameters (slots?.getD []) =
      .error (.unboundParameter index)) (session : Session σ) :
    StopsAtSlot index t? (q.execute b calling db defaultMode options slots? t?) session := by
  obtain ⟨q', logs, -, hrun⟩ := h.execute b calling db defaultMode options slots? t? session
  rw [hmode, hparameters] at hrun
  exact ⟨q', logs, hrun⟩

/-- A prepared statement is the statement with its slots filled. If there is a value for each slot
that is registered, rendering it gives the text and the parameters of the filled statement, and
executing it runs the command that executing the filled statement in bind mode runs, whatever mode
the options or the default ask for and whatever was done with the executables before. Otherwise
both fail at the first slot without a value, and no call is made. -/
theorem prepared_runs_as_filled (options : ExecuteOptions) (t? : Option (Transaction κ))
    (slots : List Value) {ordinary : Executable} (hq : q.ArisesFrom built)
    (hordinary : ordinary.ArisesFrom (built.fillSlots slots)) :
    let s := built.statement
    let bindings := (s.compile db.dialect .bind).bindings
    ((∀ p ∈ bindings, p.IsBound slots) →
      ∃ sql parameters, (s.fillSlots slots).renderWith db.dialect [] = .ok (sql, parameters) ∧
        ∀ (defaultMode : ParameterMode) (session : Session σ),
          let command : SqlCommand :=
            ⟨sql, s.kind, options.timeout?.or db.timeout?, parameters⟩
          ((q.render db.dialect slots).run session).1.1 = .ok (sql, parameters) ∧
          RunsCommand b calling db options.debugName? t? built command
            (q.execute b calling db defaultMode options (some slots) t?) session ∧
          RunsCommand b calling db options.debugName? t? built command
            (ordinary.execute b calling db defaultMode { options with mode? := some .bind }
              none t?) session) ∧
    ((¬ ∀ p ∈ bindings, p.IsBound slots) →
      ∃ before index type after, bindings = before ++ .slot index type :: after ∧
        (∀ p ∈ before, p.IsBound slots) ∧ slots.length ≤ index ∧
        ∀ (defaultMode : ParameterMode) (session : Session σ),
          (∃ q' logs, (q.render db.dialect slots).run session =
            ((.error (.unboundParameter index), q'), session.logging logs)) ∧
          StopsAtSlot index t?
            (q.execute b calling db defaultMode options (some slots) t?) session) := by
  intro s bindings
  have hsound := hq.isSound
  have hsound' := hordinary.isSound
  constructor
  · -- both renderings are that of the filled statement
    intro hbound
    obtain ⟨parameters, hparameters⟩ :=
      Binding.exists_resolveFrom (s.compile db.dialect .bind).style 0 hbound
    have hrender : s.renderWith db.dialect slots =
        .ok ((s.compile db.dialect .bind).sql, parameters) := by
      rw [StatementOf.renderWith, Compiled.parameters, Binding.resolve, hparameters]
      rfl
    have hfilled := StatementOf.renderWith_fillSlots slots db.dialect s
    rw [hrender] at hfilled
    refine ⟨_, parameters, hfilled, ?_⟩
    intro defaultMode session
    refine ⟨?_, hsound.runsCommand b calling db defaultMode options (some slots) t? rfl hrender
      session, ?_⟩
    · obtain ⟨q', logs, -, hrun⟩ := hsound.render db.dialect slots session
      rw [hrun]
      exact hrender
    · have hfilled' : (built.fillSlots slots).statement.renderWith db.dialect [] =
          .ok ((s.compile db.dialect .bind).sql, parameters) := by
        rw [Built.statement_fillSlots, hfilled]
      obtain ⟨q', logs, hrun⟩ := hsound'.runsCommand b calling db defaultMode
        { options with mode? := some .bind } none t? rfl hfilled' session
      rw [Executable.run_fillSlots, Built.statement_fillSlots, StatementOf.kind_fillSlots] at hrun
      exact ⟨q', logs, hrun⟩
  · intro hunbound
    obtain ⟨before, index, type, after, hsplit, hbefore, hindex⟩ :=
      Binding.exists_first_unbound hunbound
    -- the bindings are resolved before the first call, in the order of the placeholders
    have hparameters : (s.compile db.dialect .bind).parameters slots =
        .error (.unboundParameter index) := by
      show Binding.resolveFrom _ slots 0 bindings = _
      rw [hsplit]
      exact Binding.resolveFrom_unbound _ 0 hbefore hindex type after
    refine ⟨before, index, type, after, hsplit, hbefore, hindex, ?_⟩
    intro defaultMode session
    refine ⟨?_, hsound.stopsAtSlot b calling db defaultMode options (some slots) t? rfl hparameters
      session⟩
    obtain ⟨q', logs, -, hrun⟩ := hsound.render db.dialect slots session
    refine ⟨q', logs, ?_⟩
    rw [hrun, StatementOf.renderWith, hparameters]
    rfl

/-- A selection of invoices by two slots, of which the second is used in front of the first and
again within a nested selection. -/
def selectionBySlots : Built :=
  let invoices : Table := { schema? := none, name := "Invoice", enclosed := false, id := ⟨0, 0⟩ }
  let id : Expr := .column { table := invoices, name := "Id", enclosed := false, type := .int }
  let nested : Statement := .select { head := { fields := [.slot 1 .int] } }
  let statement : Statement := .select
    { head :=
        { fields := [id, .slot 1 .int]
          source? := some invoices
          filter? := some (.and (.of (.compare .eq id (.slot 0 .int)))
            (.of (.existsQuery nested false))) } }
  .query ⟨statement, [⟨id, .native .int, false⟩, ⟨.slot 1 .int, .native .int, false⟩]⟩

/-- Each slot is filled by its own value wherever it stands, though the selection was rendered with
literals before and the options ask for these; and without a value for the second slot, which the
text has first, nothing is sent. -/
theorem prepared_selectionBySlots :
    let db : Database := { id := 0, name := "main", dialect := .sqlServer }
    let session : Session Scripted := { backend := [] }
    let q := ((({ built := selectionBySlots } : Executable).compile
      ⟨.sqlServer, .inline⟩).run session).1.2
    let options : ExecuteOptions := { mode? := some .inline }
    (∀ p ∈ (selectionBySlots.statement.compile .sqlServer .bind).bindings,
      p.IsBound [.int 7, .int 9]) ∧
    RunsCommand Scripted.backend .blocking db none none selectionBySlots
      ⟨"SELECT _0.Id,@0 FROM Invoice AS _0 WHERE (_0.Id=@1) AND (EXISTS(SELECT @2))", .select, none,
        [⟨"@0", .int, .int 9⟩, ⟨"@1", .int, .int 7⟩, ⟨"@2", .int, .int 9⟩]⟩
      (q.execute Scripted.backend .blocking db .inline options (some [.int 7, .int 9]) none)
      session ∧
    StopsAtSlot 1 none
      (q.execute Scripted.backend .blocking db .inline options (some [.int 7]) none) session := by
  intro db session q options
  have hq : q.ArisesFrom selectionBySlots := .compiled ⟨.sqlServer, .inline⟩ session .fresh
  have hbindings : (selectionBySlots.statement.compile .sqlServer .bind).bindings =
      [.slot 1 .int, .slot 0 .int, .slot 1 .int] := by decide +kernel
  have hbound : ∀ p ∈ (selectionBySlots.statement.compile .sqlServer .bind).bindings,
      p.IsBound [.int 7, .int 9] := by
    rw [hbindings]
    simp [Binding.IsBound]
  refine ⟨hbound, ?_, ?_⟩
  · obtain ⟨sql, parameters, hrender, hruns⟩ := (prepared_runs_as_filled Scripted.backend .blocking
      db options none [.int 7, .int 9] hq .fresh).1 hbound
    have hrender' :
        (selectionBySlots.statement.fillSlots [.int 7, .int 9]).renderWith .sqlServer [] = .ok
          ("SELECT _0.Id,@0 FROM Invoice AS _0 WHERE (_0.Id=@1) AND (EXISTS(SELECT @2))",
          [⟨"@0", .int, .int 9⟩, ⟨"@1", .int, .int 7⟩, ⟨"@2", .int, .int 9⟩]) := by
      decide +kernel
    rw [hrender'] at hrender
    cases hrender
    exact (hruns .inline session).2.1
  · have hunbound : ¬ ∀ p ∈ (selectionBySlots.statement.compile .sqlServer .bind).bindings,
        p.IsBound [.int 7] := by
      rw [hbindings]
      simp [Binding.IsBound]
    obtain ⟨before, index, type, after, hsplit, hbefore, hindex, hstops⟩ :=
      (prepared_runs_as_filled Scripted.backend .blocking db options none [.int 7] hq .fresh).2
        hunbound
    have hindex' : index = 1 := by
      have hmem : Binding.slot index type ∈ [.slot 1 .int, .slot 0 .int, .slot 1 .int] := by
        rw [← hbindings, hsplit]
        exact List.mem_append_right before List.mem_cons_self
      have hlength : 1 ≤ index := hindex
      simp at hmem
      omega
    rw [hindex'] at hstops
    exact (hstops .inline session).2

end Execution

end Histories

end TypedSql
