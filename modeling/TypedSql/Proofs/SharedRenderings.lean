import Mathlib.Logic.Function.Basic
import TypedSql.Proofs.ParameterModes
/-!
# Renderings that threads share

Threads share a query and its clones, and with them one cache of renderings. The lookup in the cache
and the insertion into it are steps of their own, with the rendering between them: what one thread
did not find may be there before it is done, and is replaced. The key of a rendering does not name
its statement. It need not: handles with the same cache have the same statement, and whatever order
the steps of the threads come in, a cache holds nothing but fresh renderings of it.

## Main definitions

- `SharedQuery`, `SharedCall`: a handle on a query, and what a thread asks of one.
- `Executable.proceed`: what is left of an execution that has its rendering.
- `SharedState`: the caches, the handles and the threads; `SharedState.step`: one step of a thread.
- `Finished.IsFresh`: a call was answered from a fresh rendering.

## Main statements

- `Executable.run_execute`: an execution finds a rendering and proceeds with it.
- `SharedState.run_alone`: the steps of one thread alone are those of an executable.
- `SharedState.IsSound.step`, `SharedState.IsSound.run`: what each step keeps, and each order of
  steps.
- `shared_renderings_are_fresh`: every call is answered, and from a fresh rendering.

## Design notes

A thread uses the cache until it has its rendering. What it does with the session afterwards is one
step here, since nothing of it can be seen in a cache.
-/

namespace TypedSql

variable {σ κ : Type}

/-- What is asked of an execution. -/
structure ExecutionRequest (κ : Type) where
  calling : Calling
  db : Database
  defaultMode : ParameterMode
  options : ExecuteOptions := {}
  slots? : Option (List Value) := none
  t? : Option (Transaction κ) := none

def ExecutionRequest.mode (x : ExecutionRequest κ) : ParameterMode :=
  Executable.modeOf x.defaultMode x.options x.slots?

namespace Executable

/-- Runs the command that was asked for, with a text and parameters. -/
def runText (b : Backend σ κ) (built : Built) (x : ExecutionRequest κ) (sql : String)
    (parameters : List Parameter) :
    SessionM σ (Except ExecError Outcome × Option (Transaction κ)) :=
  run b x.calling x.db x.options.debugName?
    ⟨sql, built.statement.kind, x.options.timeout?.or x.db.timeout?, parameters⟩ x.t? built

/-- What is left of an execution that has its rendering. -/
def proceed (b : Backend σ κ) (built : Built) (x : ExecutionRequest κ) (c : Compiled) :
    SessionM σ (Except ExecError Outcome × Option (Transaction κ)) :=
  match c.parameters (x.slots?.getD []) with
  | .error e => pure (.error (.query e), x.t?)
  | .ok parameters => runText b built x c.sql parameters

/-- Only a rendering that is made now is logged. -/
theorem run_compile (key : CompileKey) (q : Executable) (session : Session σ) :
    (q.compile key).run session =
      match q.cache.find? key with
      | some c => ((c, q), session)
      | none =>
        let c := q.built.statement.compile key.dialect key.mode
        ((c, { q with cache := q.cache.insert key c }),
          session.logging [.cachingCompiled key.dialect key.mode c.sql]) := by
  cases hfound : q.cache.find? key with
  | some c =>
    simp [compile, CompiledCache.getOrCompile, hfound]
    rfl
  | none =>
    simp [compile, CompiledCache.getOrCompile, hfound]
    rfl

theorem run_execute (b : Backend σ κ) (x : ExecutionRequest κ) (q : Executable)
    (session : Session σ) :
    (q.execute b x.calling x.db x.defaultMode x.options x.slots? x.t?).run session =
      let ((c, q'), session) := (q.compile ⟨x.db.dialect, x.mode⟩).run session
      let ((result, t?), session) := (proceed b q.built x c).run session
      ((result, t?, q'), session) := by
  -- an executable keeps its statement
  obtain ⟨c, q', session', hcompile, hbuilt⟩ : ∃ c q' session',
      (q.compile ⟨x.db.dialect, x.mode⟩).run session = ((c, q'), session') ∧
        q'.built = q.built := by
    rw [run_compile]
    cases q.cache.find? ⟨x.db.dialect, x.mode⟩ with
    | some c => exact ⟨_, _, _, rfl, rfl⟩
    | none => exact ⟨_, _, _, rfl, rfl⟩
  rw [execute, ← modeOf, ← ExecutionRequest.mode, Session.run_bind hcompile, hcompile]
  simp only [hbuilt, proceed]
  cases c.parameters (x.slots?.getD []) with
  | error e => rfl
  | ok parameters => rfl

end Executable

section Calls

/-- A handle on a built statement and on a cache of its renderings. A clone is the same handle. -/
structure SharedQuery where
  built : Built
  cache : Nat

/-- What a thread asks of a query. -/
inductive SharedUse (κ : Type) where
  | compiled (key : CompileKey)
  | rendered (d : Dialect) (slots : List Value)
  | executed (x : ExecutionRequest κ)

/-- The rendering that is needed. -/
def SharedUse.key : SharedUse κ → CompileKey
  | compiled key => key
  | rendered d _ => ⟨d, .bind⟩
  | executed x => ⟨x.db.dialect, x.mode⟩

structure SharedCall (κ : Type) where
  query : SharedQuery
  use : SharedUse κ

/-- What a call yields. An execution has a session before it and one after it. -/
inductive Answer (σ κ : Type) where
  | compiled (c : Compiled)
  | rendered (r : Except QueryError (String × List Parameter))
  | executed (before after : Session σ) (result : Except ExecError Outcome)
      (t? : Option (Transaction κ))

namespace SharedCall

/-- The rendering that would be made now. -/
def fresh (call : SharedCall κ) : Compiled :=
  call.query.built.statement.compile call.use.key.dialect call.use.key.mode

/-- What becomes of a call that has its rendering, and the session after it. -/
def answer (b : Backend σ κ) (call : SharedCall κ) (c : Compiled) (session : Session σ) :
    Answer σ κ × Session σ :=
  match call.use with
  | .compiled _ => (.compiled c, session)
  | .rendered _ slots =>
    (.rendered ((c.parameters slots).map fun parameters => (c.sql, parameters)), session)
  | .executed x =>
    let ((result, t?), after) := (Executable.proceed b call.query.built x c).run session
    (.executed session after result t?, after)

end SharedCall

/-- A call that has been answered. -/
structure Finished (σ κ : Type) where
  thread : Nat
  call : SharedCall κ
  compiled : Compiled
  answer : Answer σ κ

/-- The call has the rendering that would be made now. An execution that binds its values has sent
what the statement renders to, or has stopped at a slot without a value; one that does not has sent
the text with all values in it. -/
def Finished.IsFresh (b : Backend σ κ) (f : Finished σ κ) : Prop :=
  let built := f.call.query.built
  f.compiled = f.call.fresh ∧
    match f.call.use, f.answer with
    | .compiled key, .compiled c => c = built.statement.compile key.dialect key.mode
    | .rendered d slots, .rendered r => r = built.statement.renderWith d slots
    | .executed x, .executed before after result t? =>
      ((result, t?), after) =
        match x.mode with
        | .bind =>
          match built.statement.renderWith x.db.dialect (x.slots?.getD []) with
          | .error e => ((.error (.query e), x.t?), before)
          | .ok (sql, parameters) => (Executable.runText b built x sql parameters).run before
        | .inline => (Executable.runText b built x
            ((built.statement.render x.db.dialect).inlineSql x.db.dialect) []).run before
    | _, _ => False

/-- A call that is answered with a fresh rendering is answered as it should be. -/
theorem SharedCall.isFresh_answer (b : Backend σ κ) (thread : Nat) (call : SharedCall κ)
    (session : Session σ) :
    Finished.IsFresh b ⟨thread, call, call.fresh, (call.answer b call.fresh session).1⟩ := by
  obtain ⟨⟨built, cache⟩, use⟩ := call
  refine ⟨rfl, ?_⟩
  cases use with
  | compiled key => exact rfl
  | rendered d slots => exact rfl
  | executed x =>
    show (Executable.proceed b built x (built.statement.compile x.db.dialect x.mode)).run session =
      _
    cases hmode : x.mode with
    | bind =>
      rw [Executable.proceed, StatementOf.renderWith]
      simp only
      cases (built.statement.compile x.db.dialect .bind).parameters (x.slots?.getD []) with
      | error e => rfl
      | ok parameters => rfl
    | inline =>
      rw [Executable.proceed, StatementOf.compile_inline]
      rfl

end Calls

section Threads

/-- How far a thread is with a call. It looks for a rendering, makes one if there is none, and
stores what it has made. -/
inductive Progress where
  | looking
  | rendering
  | storing (c : Compiled)
  | holding (c : Compiled)

namespace Progress

/-- The rendering that the thread has. -/
def compiled? : Progress → Option Compiled
  | storing c => some c
  | holding c => some c
  | _ => none

/-- The steps that are left at most. -/
def stepsLeft : Progress → Nat
  | looking => 4
  | rendering => 3
  | storing _ => 2
  | holding _ => 1

theorem stepsLeft_le (p : Progress) : p.stepsLeft ≤ 4 := by
  cases p <;> simp [stepsLeft]

end Progress

/-- A call that a thread is in the middle of. -/
structure Pending (κ : Type) where
  call : SharedCall κ
  progress : Progress

/-- A call that a thread is in the middle of is a call of one of the queries. The thread has no
rendering but the one that would be made now. -/
structure Pending.IsSound (p : Pending κ) (queries : List SharedQuery) : Prop where
  query_mem : p.call.query ∈ queries
  eq_fresh : ∀ c, p.progress.compiled? = some c → c = p.call.fresh

/-- What threads share, and what each of them is in the middle of. -/
structure SharedState (σ κ : Type) where
  session : Session σ
  /-- The number of caches so far. -/
  made : Nat := 0
  caches : Nat → CompiledCache := fun _ => {}
  queries : List SharedQuery := []
  pending : Nat → Option (Pending κ) := fun _ => none
  finished : List (Finished σ κ) := []

/-- What happens next. -/
inductive Move (κ : Type) where
  /-- A query is built, with a cache of its own. -/
  | build (built : Built)
  /-- A query is cloned, or the one within a prepared query. -/
  | clone (query : Nat)
  /-- An idle thread asks something of a query. -/
  | ask (thread query : Nat) (use : SharedUse κ)
  | advance (thread : Nat)

def Move.advances (thread : Nat) : Move κ → Bool
  | advance t => t == thread
  | _ => false

namespace SharedState

variable (b : Backend σ κ)

/-- The thread is as far as this with its call. -/
def setPending (w : SharedState σ κ) (thread : Nat) (p? : Option (Pending κ)) : SharedState σ κ :=
  { w with pending := Function.update w.pending thread p? }

/-- The call is answered with a rendering. -/
def finish (w : SharedState σ κ) (thread : Nat) (call : SharedCall κ) (c : Compiled) :
    SharedState σ κ :=
  let answered := call.answer b c w.session
  { w.setPending thread none with
    session := answered.2
    finished := w.finished ++ [⟨thread, call, c, answered.1⟩] }

/-- The step of a thread in the middle of a call. -/
def advance (w : SharedState σ κ) (thread : Nat) (call : SharedCall κ) :
    Progress → SharedState σ κ
  | .looking =>
    match (w.caches call.query.cache).find? call.use.key with
    | some c => w.setPending thread (some ⟨call, .holding c⟩)
    | none => w.setPending thread (some ⟨call, .rendering⟩)
  | .rendering =>
    let key := call.use.key
    { w.setPending thread (some ⟨call, .storing call.fresh⟩) with
      session := w.session.logging [.cachingCompiled key.dialect key.mode call.fresh.sql] }
  | .storing c =>
    let cache := (w.caches call.query.cache).insert call.use.key c
    { w.setPending thread (some ⟨call, .holding c⟩) with
      caches := Function.update w.caches call.query.cache cache }
  | .holding c => w.finish b thread call c

/-- One step. What cannot be done changes nothing. -/
def step (w : SharedState σ κ) : Move κ → SharedState σ κ
  | .build built => { w with made := w.made + 1, queries := w.queries ++ [⟨built, w.made⟩] }
  | .clone n =>
    match w.queries[n]? with
    | some q => { w with queries := w.queries ++ [q] }
    | none => w
  | .ask thread n use =>
    match w.pending thread, w.queries[n]? with
    | none, some q => w.setPending thread (some ⟨⟨q, use⟩, .looking⟩)
    | _, _ => w
  | .advance thread =>
    match w.pending thread with
    | some p => w.advance b thread p.call p.progress
    | none => w

/-- The steps in turn, in whatever order they come. -/
def run (w : SharedState σ κ) (moves : List (Move κ)) : SharedState σ κ :=
  moves.foldl (step b) w

variable {b} {w : SharedState σ κ} {thread : Nat}

theorem step_advance {p : Pending κ} (h : w.pending thread = some p) :
    w.step b (.advance thread) = w.advance b thread p.call p.progress := by
  rw [step, h]

theorem step_advance_idle (h : w.pending thread = none) : w.step b (.advance thread) = w := by
  rw [step, h]

section Alone

theorem pending_setPending (w : SharedState σ κ) (thread : Nat) (p? : Option (Pending κ)) :
    (w.setPending thread p?).pending thread = p? :=
  Function.update_self ..

theorem pending_setPending_of_ne (w : SharedState σ κ) {other : Nat} (hne : thread ≠ other)
    (p? : Option (Pending κ)) : (w.setPending other p?).pending thread = w.pending thread :=
  Function.update_of_ne hne ..

theorem pending_finish (w : SharedState σ κ) (thread : Nat) (call : SharedCall κ) (c : Compiled) :
    (w.finish b thread call c).pending thread = none :=
  w.pending_setPending thread none

theorem pending_advance_rendering (w : SharedState σ κ) (thread : Nat) (call : SharedCall κ) :
    (w.advance b thread call .rendering).pending thread =
      some ⟨call, .storing call.fresh⟩ :=
  w.pending_setPending thread _

theorem pending_advance_storing (w : SharedState σ κ) (thread : Nat) (call : SharedCall κ)
    (c : Compiled) :
    (w.advance b thread call (.storing c)).pending thread = some ⟨call, .holding c⟩ :=
  w.pending_setPending thread _

theorem finish_setPending (w : SharedState σ κ) (thread : Nat) (p? : Option (Pending κ))
    (call : SharedCall κ) (c : Compiled) :
    (w.setPending thread p?).finish b thread call c = w.finish b thread call c := by
  simp [finish, setPending]

/-- The steps of one thread alone are those of an executable with the cache. -/
theorem run_alone {call : SharedCall κ} (h : w.pending thread = some ⟨call, .looking⟩) :
    let q : Executable := ⟨call.query.built, w.caches call.query.cache⟩
    w.run b (List.replicate 4 (.advance thread)) =
      let ((c, q'), session) := (q.compile call.use.key).run w.session
      { w with
        session
        caches := Function.update w.caches call.query.cache q'.cache }.finish b thread call c := by
  intro q
  show (((w.step b (.advance thread)).step b (.advance thread)).step b (.advance thread)).step b
    (.advance thread) = _
  rw [step_advance h, q.run_compile]
  cases hfound : (w.caches call.query.cache).find? call.use.key with
  | some c =>
    -- a rendering that is found is used in the next step, after which the thread is idle
    let found := w.setPending thread (some ⟨call, .holding c⟩)
    have hlook : w.advance b thread call .looking = found := by rw [advance, hfound]
    have hfinish : found.step b (.advance thread) = w.finish b thread call c := by
      rw [step_advance (w.pending_setPending thread _)]
      exact w.finish_setPending thread _ call c
    have hidle := w.pending_finish (b := b) thread call c
    rw [hlook, hfinish, step_advance_idle hidle, step_advance_idle hidle]
    simp only [q, Function.update_eq_self]
  | none =>
    let key := call.use.key
    let missed := w.setPending thread (some ⟨call, .rendering⟩)
    let made := missed.advance b thread call .rendering
    let stored := made.advance b thread call (.storing call.fresh)
    have hlook : w.advance b thread call .looking = missed := by rw [advance, hfound]
    have hrender : missed.step b (.advance thread) = made :=
      step_advance (w.pending_setPending thread _)
    have hstore : made.step b (.advance thread) = stored :=
      step_advance (missed.pending_advance_rendering thread call)
    have hfinish : stored.step b (.advance thread) = stored.finish b thread call call.fresh :=
      step_advance (made.pending_advance_storing thread call call.fresh)
    rw [hlook, hrender, hstore, hfinish]
    simp [q, stored, made, missed, advance, finish, setPending, SharedCall.fresh]

end Alone

section Soundness

/-- Handles with the same cache have the same statement, and a cache holds nothing but fresh
renderings of it. -/
structure IsSound (b : Backend σ κ) (w : SharedState σ κ) : Prop where
  cache_lt : ∀ q ∈ w.queries, q.cache < w.made
  statement_eq : ∀ q ∈ w.queries, ∀ q' ∈ w.queries, q.cache = q'.cache →
    q.built.statement = q'.built.statement
  unmade_eq : ∀ n, w.made ≤ n → w.caches n = {}
  cache_sound : ∀ q ∈ w.queries, (w.caches q.cache).Sound q.built.statement
  pending_isSound : ∀ thread p, w.pending thread = some p → p.IsSound w.queries
  finished_isFresh : ∀ f ∈ w.finished, f.IsFresh b

namespace IsSound

theorem start (session : Session σ) : ({ session } : SharedState σ κ).IsSound b := by
  refine ⟨?_, ?_, fun _ _ => rfl, ?_, ?_, ?_⟩ <;> simp

theorem withSession (h : w.IsSound b) (session : Session σ) :
    ({ w with session } : SharedState σ κ).IsSound b :=
  ⟨h.cache_lt, h.statement_eq, h.unmade_eq, h.cache_sound, h.pending_isSound, h.finished_isFresh⟩

theorem setPending (h : w.IsSound b) (thread : Nat) {p? : Option (Pending κ)}
    (hp : ∀ p, p? = some p → p.IsSound w.queries) : (w.setPending thread p?).IsSound b := by
  refine ⟨h.cache_lt, h.statement_eq, h.unmade_eq, h.cache_sound, ?_, h.finished_isFresh⟩
  intro thread' p hpending
  by_cases hthread : thread' = thread
  · rw [hthread, pending_setPending] at hpending
    exact hp p hpending
  · rw [w.pending_setPending_of_ne hthread] at hpending
    exact h.pending_isSound thread' p hpending

/-- A query that is built gets a cache that no other query has. -/
theorem build (h : w.IsSound b) (built : Built) : (w.step b (.build built)).IsSound b := by
  have hmem : ∀ q ∈ w.queries ++ [⟨built, w.made⟩], q ∈ w.queries ∨ q = ⟨built, w.made⟩ := by
    simp
  refine ⟨?_, ?_, ?_, ?_, ?_, h.finished_isFresh⟩
  · intro q hq
    obtain hq | rfl := hmem q hq
    · exact Nat.lt_succ_of_lt (h.cache_lt q hq)
    · exact Nat.lt_succ_self w.made
  · intro q hq q' hq' hcache
    obtain hq | rfl := hmem q hq <;> obtain hq' | rfl := hmem q' hq'
    · exact h.statement_eq q hq q' hq' hcache
    · exact absurd hcache (Nat.ne_of_lt (h.cache_lt q hq))
    · exact absurd hcache (Nat.ne_of_gt (h.cache_lt q' hq'))
    · rfl
  · intro n hn
    exact h.unmade_eq n (Nat.le_of_succ_le hn)
  · intro q hq
    obtain hq | rfl := hmem q hq
    · exact h.cache_sound q hq
    · show (w.caches w.made).Sound built.statement
      rw [h.unmade_eq w.made (Nat.le_refl w.made)]
      exact CompiledCache.Sound.empty _
  · intro thread p hp
    obtain ⟨hquery, hfresh⟩ := h.pending_isSound thread p hp
    exact ⟨List.mem_append_left _ hquery, hfresh⟩

theorem clone (h : w.IsSound b) (n : Nat) : (w.step b (.clone n)).IsSound b := by
  rw [step]
  cases hn : w.queries[n]? with
  | none => exact h
  | some q₀ =>
    have hmem : ∀ q ∈ w.queries ++ [q₀], q ∈ w.queries := by
      simp [or_imp, List.mem_of_getElem? hn]
    refine ⟨fun q hq => h.cache_lt q (hmem q hq), ?_, h.unmade_eq,
      fun q hq => h.cache_sound q (hmem q hq), ?_, h.finished_isFresh⟩
    · exact fun q hq q' hq' => h.statement_eq q (hmem q hq) q' (hmem q' hq')
    · intro thread p hp
      obtain ⟨hquery, hfresh⟩ := h.pending_isSound thread p hp
      exact ⟨List.mem_append_left _ hquery, hfresh⟩

theorem ask (h : w.IsSound b) (thread n : Nat) (use : SharedUse κ) :
    (w.step b (.ask thread n use)).IsSound b := by
  rw [step]
  cases w.pending thread with
  | some p => exact h
  | none =>
    cases hn : w.queries[n]? with
    | none => exact h
    | some q =>
      refine h.setPending thread ?_
      rintro p ⟨⟩
      exact ⟨List.mem_of_getElem? hn, nofun⟩

/-- A rendering that is stored is one of the statement of each handle with the cache. -/
theorem store (h : w.IsSound b) {call : SharedCall κ} (hcall : call.query ∈ w.queries) :
    let cache := (w.caches call.query.cache).insert call.use.key call.fresh
    ({ w with caches := Function.update w.caches call.query.cache cache } :
      SharedState σ κ).IsSound b := by
  intro cache
  refine ⟨h.cache_lt, h.statement_eq, ?_, ?_, h.pending_isSound, h.finished_isFresh⟩
  · intro n hn
    have hne : n ≠ call.query.cache := Nat.ne_of_gt (Nat.lt_of_lt_of_le (h.cache_lt _ hcall) hn)
    exact (Function.update_of_ne hne ..).trans (h.unmade_eq n hn)
  · intro q hq
    show (Function.update w.caches call.query.cache cache q.cache).Sound q.built.statement
    by_cases hcache : q.cache = call.query.cache
    · rw [hcache, Function.update_self, h.statement_eq q hq _ hcall hcache]
      exact (h.cache_sound _ hcall).insert call.use.key
    · rw [Function.update_of_ne hcache]
      exact h.cache_sound q hq

theorem finish (h : w.IsSound b) (thread : Nat) (call : SharedCall κ) :
    (w.finish b thread call call.fresh).IsSound b := by
  have hidle : (w.setPending thread none).IsSound b := by
    refine h.setPending thread ?_
    rintro p ⟨⟩
  have hfresh := call.isFresh_answer b thread w.session
  rw [SharedState.finish]
  generalize call.answer b call.fresh w.session = answered at hfresh ⊢
  refine ⟨hidle.cache_lt, hidle.statement_eq, hidle.unmade_eq, hidle.cache_sound,
    hidle.pending_isSound, ?_⟩
  intro f hf
  obtain hf | hf := List.mem_append.1 hf
  · exact h.finished_isFresh f hf
  · rw [List.mem_singleton.1 hf]
    exact hfresh

theorem advance (h : w.IsSound b) {p : Pending κ} (hp : p.IsSound w.queries) (thread : Nat) :
    (w.advance b thread p.call p.progress).IsSound b := by
  obtain ⟨call, progress⟩ := p
  obtain ⟨hcall, hfresh⟩ := hp
  cases progress with
  | looking =>
    rw [SharedState.advance]
    cases hfound : (w.caches call.query.cache).find? call.use.key with
    | some c =>
      refine h.setPending thread ?_
      rintro p ⟨⟩
      refine ⟨hcall, ?_⟩
      rintro c' ⟨⟩
      exact h.cache_sound _ hcall _ _ hfound
    | none =>
      refine h.setPending thread ?_
      rintro p ⟨⟩
      exact ⟨hcall, nofun⟩
  | rendering =>
    refine (h.setPending thread ?_).withSession _
    rintro p ⟨⟩
    exact ⟨hcall, fun c hc => (Option.some.inj hc).symm⟩
  | storing c =>
    obtain rfl : c = call.fresh := hfresh c rfl
    refine (h.store hcall).setPending thread ?_
    rintro p ⟨⟩
    exact ⟨hcall, hfresh⟩
  | holding c =>
    obtain rfl : c = call.fresh := hfresh c rfl
    exact h.finish thread call

/-- Each step keeps the caches sound, whichever thread makes it. -/
theorem step (h : w.IsSound b) (m : Move κ) : (w.step b m).IsSound b := by
  cases m with
  | build built => exact h.build built
  | clone n => exact h.clone n
  | ask thread n use => exact h.ask thread n use
  | advance thread =>
    cases hp : w.pending thread with
    | none =>
      rw [step_advance_idle hp]
      exact h
    | some p =>
      rw [step_advance hp]
      exact h.advance (h.pending_isSound thread p hp) thread

theorem run (h : w.IsSound b) (moves : List (Move κ)) : (w.run b moves).IsSound b := by
  induction moves generalizing w with
  | nil => exact h
  | cons m moves ih => exact ih (h.step m)

end IsSound

end Soundness

section Answers

/-- No answer is taken back. -/
theorem exists_finished_step (w : SharedState σ κ) (m : Move κ) :
    ∃ new, (w.step b m).finished = w.finished ++ new := by
  cases m with
  | build built => exact ⟨[], (List.append_nil _).symm⟩
  | clone n =>
    rw [step]
    cases w.queries[n]? <;> exact ⟨[], (List.append_nil _).symm⟩
  | ask thread n use =>
    rw [step]
    cases w.pending thread <;> cases w.queries[n]? <;> exact ⟨[], (List.append_nil _).symm⟩
  | advance thread =>
    cases hp : w.pending thread with
    | none => exact ⟨[], by rw [step_advance_idle hp, List.append_nil]⟩
    | some p =>
      rw [step_advance hp]
      obtain ⟨call, progress⟩ := p
      cases progress with
      | looking =>
        rw [advance]
        cases (w.caches call.query.cache).find? call.use.key <;>
          exact ⟨[], (List.append_nil _).symm⟩
      | rendering => exact ⟨[], (List.append_nil _).symm⟩
      | storing c => exact ⟨[], (List.append_nil _).symm⟩
      | holding c => exact ⟨_, rfl⟩

theorem exists_finished_run (w : SharedState σ κ) (moves : List (Move κ)) :
    ∃ new, (w.run b moves).finished = w.finished ++ new := by
  induction moves generalizing w with
  | nil => exact ⟨[], (List.append_nil _).symm⟩
  | cons m moves ih =>
    obtain ⟨first, hfirst⟩ := exists_finished_step (b := b) w m
    obtain ⟨rest, hrest⟩ := ih (w.step b m)
    refine ⟨first ++ rest, ?_⟩
    show ((w.step b m).run b moves).finished = _
    rw [hrest, hfirst, List.append_assoc]

/-- What other threads do leaves a thread where it is. -/
theorem pending_step {p : Pending κ} (hp : w.pending thread = some p) {m : Move κ}
    (hm : m.advances thread = false) : (w.step b m).pending thread = some p := by
  cases m with
  | build built => exact hp
  | clone n =>
    rw [step]
    cases w.queries[n]? <;> exact hp
  | ask other n use =>
    rw [step]
    cases hother : w.pending other with
    | some _ => exact hp
    | none =>
      have hne : thread ≠ other := by
        rintro rfl
        cases hp.symm.trans hother
      cases w.queries[n]? with
      | none => exact hp
      | some q => exact (w.pending_setPending_of_ne hne _).trans hp
  | advance other =>
    have hne : thread ≠ other := by
      rintro rfl
      simp [Move.advances] at hm
    cases hother : w.pending other with
    | none =>
      rw [step_advance_idle hother]
      exact hp
    | some p' =>
      rw [step_advance hother]
      obtain ⟨call, progress⟩ := p'
      cases progress with
      | looking =>
        rw [advance]
        cases (w.caches call.query.cache).find? call.use.key <;>
          exact (w.pending_setPending_of_ne hne _).trans hp
      | _ => exact (w.pending_setPending_of_ne hne _).trans hp

/-- A step of a thread is the last one of its call, or leaves fewer. -/
theorem step_advance_cases {p : Pending κ} (hp : w.pending thread = some p) :
    (∃ f, f.thread = thread ∧ f.call = p.call ∧
      (w.step b (.advance thread)).finished = w.finished ++ [f]) ∨
    ∃ progress, progress.stepsLeft < p.progress.stepsLeft ∧
      (w.step b (.advance thread)).pending thread = some ⟨p.call, progress⟩ := by
  rw [step_advance hp]
  obtain ⟨call, progress⟩ := p
  cases progress with
  | looking =>
    rw [advance]
    cases (w.caches call.query.cache).find? call.use.key with
    | some c => exact .inr ⟨.holding c, by simp [Progress.stepsLeft], w.pending_setPending ..⟩
    | none => exact .inr ⟨.rendering, by simp [Progress.stepsLeft], w.pending_setPending ..⟩
  | rendering =>
    exact .inr ⟨.storing call.fresh, by simp [Progress.stepsLeft], w.pending_advance_rendering ..⟩
  | storing c =>
    exact .inr ⟨.holding c, by simp [Progress.stepsLeft], w.pending_advance_storing ..⟩
  | holding c => exact .inl ⟨_, rfl, rfl, rfl⟩

/-- A call is answered when its thread has made the steps that were left. -/
theorem exists_finished_of_stepsLeft {p : Pending κ} (hp : w.pending thread = some p)
    {moves : List (Move κ)} (hmoves : p.progress.stepsLeft ≤ moves.countP (Move.advances thread)) :
    ∃ new, (w.run b moves).finished = w.finished ++ new ∧
      ∃ f ∈ new, f.thread = thread ∧ f.call = p.call := by
  induction moves generalizing w p with
  | nil =>
    obtain ⟨call, progress⟩ := p
    cases progress <;> simp [Progress.stepsLeft] at hmoves
  | cons m moves ih =>
    show ∃ new, ((w.step b m).run b moves).finished = _ ∧ _
    have hlater : ∀ {p' : Pending κ}, (w.step b m).pending thread = some p' → p'.call = p.call →
        p'.progress.stepsLeft ≤ moves.countP (Move.advances thread) →
        ∃ new, ((w.step b m).run b moves).finished = w.finished ++ new ∧
          ∃ f ∈ new, f.thread = thread ∧ f.call = p.call := by
      intro p' hp' hcall hleft
      obtain ⟨first, hfirst⟩ := exists_finished_step (b := b) w m
      obtain ⟨rest, hrest, f, hf, hthread, hf'⟩ := ih hp' hleft
      refine ⟨first ++ rest, ?_, f, List.mem_append_right _ hf, hthread, hf'.trans hcall⟩
      rw [hrest, hfirst, List.append_assoc]
    cases hm : m.advances thread with
    | false => exact hlater (pending_step hp hm) rfl (by simpa [hm] using hmoves)
    | true =>
      obtain rfl : m = .advance thread := by
        cases m <;> simp_all [Move.advances]
      obtain ⟨f, hthread, hcall, hfinished⟩ | ⟨progress, hless, hp'⟩ := step_advance_cases hp
      · obtain ⟨rest, hrest⟩ := (w.step b (.advance thread)).exists_finished_run moves
        refine ⟨f :: rest, ?_, f, List.mem_cons_self, hthread, hcall⟩
        rw [hrest, hfinished, List.append_assoc, List.singleton_append]
      · rw [List.countP_cons_of_pos hm] at hmoves
        have hleft : progress.stepsLeft ≤ moves.countP (Move.advances thread) := by omega
        exact hlater hp' rfl hleft

end Answers

end SharedState

variable {b : Backend σ κ}

/-- Whatever threads ask of queries, their clones and the queries within prepared ones, and whatever
order their lookups, renderings and insertions come in, each call is answered from the rendering
that would be made for it now: the texts and the parameters of executions do not depend on what was
rendered and executed before. A call is answered after four steps of its thread at most, whatever
the other threads do in the meantime. -/
theorem shared_renderings_are_fresh (b : Backend σ κ) (session : Session σ)
    (moves : List (Move κ)) :
    let w := ({ session } : SharedState σ κ).run b moves
    (∀ f ∈ w.finished, f.IsFresh b) ∧
    ∀ thread p, w.pending thread = some p →
      ∀ later : List (Move κ), 4 ≤ later.countP (Move.advances thread) →
        ∃ new, (w.run b later).finished = w.finished ++ new ∧
          ∃ f ∈ new, f.thread = thread ∧ f.call = p.call ∧ f.IsFresh b := by
  intro w
  have hw : w.IsSound b := (SharedState.IsSound.start session).run moves
  refine ⟨hw.finished_isFresh, ?_⟩
  intro thread p hp later hlater
  have hleft : p.progress.stepsLeft ≤ later.countP (Move.advances thread) :=
    Nat.le_trans p.progress.stepsLeft_le hlater
  obtain ⟨new, hnew, f, hf, hthread, hcall⟩ := SharedState.exists_finished_of_stepsLeft hp hleft
  refine ⟨new, hnew, f, hf, hthread, hcall, (hw.run later).finished_isFresh f ?_⟩
  rw [hnew]
  exact List.mem_append_right _ hf

/-- Two threads miss the same rendering through a query and its clone. Both make it and store it,
and each is answered with the text that a fresh rendering has. -/
theorem shared_selectionBySlots :
    let sql := "SELECT _0.Id,@0 FROM Invoice AS _0 WHERE (_0.Id=@1) AND (EXISTS(SELECT @2))"
    let db : Database := { id := 0, name := "main", dialect := .sqlServer }
    let x : ExecutionRequest Nat :=
      { calling := .blocking, db, defaultMode := .inline, slots? := some [.int 7, .int 9] }
    let w := ({ session := { backend := [] } } : SharedState Scripted Nat).run Scripted.backend
      [.build selectionBySlots, .clone 0, .ask 0 0 (.compiled ⟨.sqlServer, .bind⟩),
        .ask 1 1 (.executed x), .advance 0, .advance 1, .advance 0, .advance 1, .advance 0,
        .advance 1, .advance 0]
    (∃ f ∈ w.finished, f.thread = 0 ∧ f.compiled.sql = sql) ∧
    ∃ f ∈ (w.run Scripted.backend (List.replicate 4 (.advance 1))).finished, f.thread = 1 ∧
      ∃ before after result t?, f.answer = .executed before after result t? ∧
        ((result, t?), after) = (Executable.runText Scripted.backend selectionBySlots x sql
          [⟨"@0", .int, .int 9⟩, ⟨"@1", .int, .int 7⟩, ⟨"@2", .int, .int 9⟩]).run before := by
  intro sql db x w
  have hpending : w.pending 1 = some ⟨⟨⟨selectionBySlots, 0⟩, .executed x⟩,
      .holding (selectionBySlots.statement.compile .sqlServer .bind)⟩ := rfl
  have hsql : (selectionBySlots.statement.compile .sqlServer .bind).sql = sql := by
    decide +kernel
  have hrender : selectionBySlots.statement.renderWith .sqlServer [.int 7, .int 9] =
      .ok (sql, [⟨"@0", .int, .int 9⟩, ⟨"@1", .int, .int 7⟩, ⟨"@2", .int, .int 9⟩]) := by
    decide +kernel
  obtain ⟨-, hpromised⟩ := shared_renderings_are_fresh Scripted.backend { backend := [] }
    [.build selectionBySlots, .clone 0, .ask 0 0 (.compiled ⟨.sqlServer, .bind⟩),
      .ask 1 1 (.executed x), .advance 0, .advance 1, .advance 0, .advance 1, .advance 0,
      .advance 1, .advance 0]
  constructor
  · have hmem : (⟨0, ⟨⟨selectionBySlots, 0⟩, .compiled ⟨.sqlServer, .bind⟩⟩,
        selectionBySlots.statement.compile .sqlServer .bind, .compiled
        (selectionBySlots.statement.compile .sqlServer .bind)⟩ : Finished Scripted Nat) ∈
        w.finished := List.mem_singleton_self _
    exact ⟨_, hmem, rfl, hsql⟩
  · obtain ⟨new, hnew, f, hf, hthread, hcall, hfresh⟩ :=
      hpromised 1 _ hpending (List.replicate 4 (.advance 1)) (by decide)
    refine ⟨f, hnew ▸ List.mem_append_right _ hf, hthread, ?_⟩
    obtain ⟨thread, call, c, answer⟩ := f
    obtain rfl : call = ⟨⟨selectionBySlots, 0⟩, .executed x⟩ := hcall
    obtain ⟨-, hanswer⟩ := hfresh
    cases answer with
    | executed before after result t? =>
      refine ⟨before, after, result, t?, rfl, ?_⟩
      simpa [x, db, hrender, ExecutionRequest.mode, Executable.modeOf] using hanswer
    | _ => cases hanswer

end Threads

end TypedSql
