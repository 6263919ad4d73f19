import TypedSql.Proofs.Chains
import TypedSql.Statement.Builder
/-!
# Stages of builders

The stage of a builder says what its statement has by now. Each call keeps that true, the call that
starts another part of a selection included, which takes the builder back to its first stage. So a
statement that its stage lets be built is complete but for the fields of its parts, and a condition
is never set twice.

## Main definitions

- `BuilderStart`, `BuilderCall`: how a builder begins, and what is done to it.
- `Builder.calls?`: the builder after calls in turn.
- `SelectOf.IsStaged`, `UpdateOf.IsStaged` and others: a statement is as its stage says.

## Main statements

- `Builder.IsStaged.call`, `Builder.IsStaged.calls`: what one call keeps, and what a sequence keeps.
- `builders_make_complete_statements`: why building can fail, and what a built statement has.
-/

namespace TypedSql

open BuildStage

variable {γ : Type}

/-- How a builder begins. -/
inductive BuilderStart where
  | select (selector : List Field)
  | insertInto (table : Table)
  | update (table : Table)
  | deleteFrom (table : Table)
  | truncateTable (table : Table)

def BuilderStart.builder : BuilderStart → Builder
  | select selector => .select selector
  | insertInto table => .insertInto table
  | update table => .update table
  | deleteFrom table => .deleteFrom table
  | truncateTable table => .truncateTable table

/-- What is done to a builder before it builds. -/
inductive BuilderCall where
  | edit (e : Edit Condition)
  | returning (selector : List Field)

/-- The table to read from, if the edit names one. -/
def Edit.source? : Edit γ → Option Table
  | source table => some table
  | _ => none

def BuilderCall.source? : BuilderCall → Option Table
  | edit e => e.source?
  | returning _ => none

namespace Builder

/-- The builder after a call, if the stage lets it follow. -/
def call? (b : Builder) : BuilderCall → Option (Except QueryError Builder)
  | .edit e => b.edit? e
  | .returning selector => b.returning? selector

/-- The builder after calls in turn, if the stages let them follow. The first one that is refused
for its content is the last. -/
def calls? (b : Builder) : List BuilderCall → Option (Except QueryError Builder)
  | [] => some (.ok b)
  | c :: rest =>
    match b.call? c with
    | none => none
    | some (.error e) => some (.error e)
    | some (.ok b) => b.calls? rest

end Builder

theorem BuildStage.ne_initial {stage : BuildStage} (h : stage.isSourced) : stage ≠ initial := by
  rintro rfl
  cases h

theorem BuildStage.isSourced_of_canUnite {stage : BuildStage} (h : stage.canUnite) :
    stage.isSourced := by
  rw [isSourced, h, Bool.true_or]

section Selections

/-- The selection is as its stage says. Its parts have the tables in turn, but for the last part at
the first stage; no limit is zero; and a condition that can be set is not there yet. -/
structure SelectOf.IsStaged (s : SelectOf γ) (stage : BuildStage) (sources : List Table) :
    Prop where
  sources_eq : s.bodies.map (·.source?) =
    sources.map some ++ if stage = initial then [none] else []
  top?_ne : ∀ body ∈ s.bodies, body.top? ≠ some 0
  filter?_eq : stage = initial ∨ stage = sourced → s.current.filter? = none
  having?_eq : stage ∈ [initial, sourced, filtered, grouped] → s.current.having? = none

namespace SelectOf.IsStaged

variable {s s' : SelectOf γ} {stage stage' : BuildStage} {sources : List Table}

theorem top?_earlier_and_current (h : s.IsStaged stage sources) :
    (∀ body ∈ s.bodies.dropLast, body.top? ≠ some 0) ∧ s.current.top? ≠ some 0 := by
  have htops := h.top?_ne
  rw [s.bodies_eq, List.forall_mem_append, List.forall_mem_singleton] at htops
  exact htops

theorem top?_current (h : s.IsStaged stage sources) : s.current.top? ≠ some 0 :=
  h.top?_earlier_and_current.2

/-- A later stage asks no more of the same parts. -/
theorem later (h : s.IsStaged stage sources) (hbodies : s'.bodies = s.bodies)
    (hcurrent : s'.current = s.current) (hinitial : stage' = initial ↔ stage = initial)
    (hfilter : stage' = initial ∨ stage' = sourced → stage = initial ∨ stage = sourced)
    (hhaving : stage' ∈ [initial, sourced, filtered, grouped] →
      stage ∈ [initial, sourced, filtered, grouped]) : s'.IsStaged stage' sources := by
  refine ⟨?_, ?_, ?_, ?_⟩
  · simp only [hbodies, h.sources_eq, hinitial]
  · rw [hbodies]
    exact h.top?_ne
  · rw [hcurrent]
    exact fun hstage => h.filter?_eq (hfilter hstage)
  · rw [hcurrent]
    exact fun hstage => h.having?_eq (hhaving hstage)

/-- An edit of the last part that keeps its table is judged by the conditions alone. -/
theorem modifyCurrent (h : s.IsStaged stage sources) {f : SelectBody γ → SelectBody γ}
    (hinitial : stage' = initial ↔ stage = initial)
    (hsource : (f s.current).source? = s.current.source?)
    (htop : (f s.current).top? ≠ some 0)
    (hfilter : stage' = initial ∨ stage' = sourced → (f s.current).filter? = none)
    (hhaving : stage' ∈ [initial, sourced, filtered, grouped] → (f s.current).having? = none) :
    (s.modifyCurrent f).IsStaged stage' sources := by
  have hsources := h.sources_eq
  rw [s.bodies_eq] at hsources
  refine ⟨?_, ?_, ?_, ?_⟩
  · simp only [hinitial, s.bodies_modifyCurrent, ← hsources]
    simp [hsource]
  · rw [s.bodies_modifyCurrent, List.forall_mem_append, List.forall_mem_singleton]
    exact ⟨h.top?_earlier_and_current.1, htop⟩
  · rw [s.current_modifyCurrent]
    exact hfilter
  · rw [s.current_modifyCurrent]
    exact hhaving

theorem setSource (h : s.IsStaged initial sources) (table : Table) :
    (s.setSource table).IsStaged sourced (sources ++ [table]) := by
  have hsources := h.sources_eq
  rw [s.bodies_eq] at hsources
  -- the last part is the one without a table
  have hearlier : s.bodies.dropLast.map (·.source?) = sources.map some := by
    rw [List.map_append] at hsources
    exact (List.append_inj' hsources rfl).1
  refine ⟨?_, ?_, ?_, ?_⟩
  · rw [SelectOf.setSource, s.bodies_modifyCurrent, List.map_append, hearlier]
    simp
  · rw [SelectOf.setSource, s.bodies_modifyCurrent, List.forall_mem_append,
      List.forall_mem_singleton]
    exact h.top?_earlier_and_current
  · rw [SelectOf.setSource, s.current_modifyCurrent]
    exact fun _ => h.filter?_eq (by simp)
  · rw [SelectOf.setSource, s.current_modifyCurrent]
    exact fun _ => h.having?_eq (by simp)

theorem addUnion (h : s.IsStaged stage sources) (hstage : stage ≠ initial)
    (operator : SetOperator) (fields : List Expr) :
    (s.addUnion operator { fields }).IsStaged initial sources := by
  refine ⟨?_, ?_, ?_, ?_⟩
  · rw [s.bodies_addUnion, List.map_append, h.sources_eq]
    simp [hstage]
  · rw [s.bodies_addUnion, List.forall_mem_append, List.forall_mem_singleton]
    exact ⟨h.top?_ne, nofun⟩
  · simp [s.current_addUnion]
  · simp [s.current_addUnion]

theorem kept (h : s.IsStaged stage sources) {e : Edit γ} (he : e.source? = none) :
    s.IsStaged stage (sources ++ e.source?.toList) := by
  rw [he, Option.toList_none, List.append_nil]
  exact h

/-- An edit that may follow is refused for a limit of zero only. -/
theorem edit (h : s.IsStaged stage sources) {e : Edit γ}
    (hnext : stage.nextOfSelect? e = some stage') :
    s.edit e = .error .invalidTop ∨
      ∃ s', s.edit e = .ok s' ∧ s'.IsStaged stage' (sources ++ e.source?.toList) := by
  cases e with
  | distinct =>
    obtain ⟨rfl, rfl⟩ := by simpa [nextOfSelect?] using hnext
    exact .inr ⟨_, rfl,
      (h.modifyCurrent Iff.rfl rfl h.top?_current h.filter?_eq h.having?_eq).kept rfl⟩
  | top n =>
    obtain ⟨rfl, rfl⟩ := by simpa [nextOfSelect?] using hnext
    by_cases hn : n = 0
    · exact .inl (by simp [hn])
    · have hedit : s.edit (.top n) = .ok (s.modifyCurrent fun b => { b with top? := some n }) := by
        simp [hn]
      exact .inr ⟨_, hedit,
        (h.modifyCurrent Iff.rfl rfl (by simpa using hn) h.filter?_eq h.having?_eq).kept rfl⟩
  | source table =>
    obtain ⟨rfl, rfl⟩ := by simpa [nextOfSelect?] using hnext
    exact .inr ⟨_, rfl, h.setSource table⟩
  | hint hint =>
    obtain ⟨rfl, rfl⟩ := by simpa [nextOfSelect?] using hnext
    exact .inr ⟨_, rfl,
      (h.modifyCurrent Iff.rfl rfl h.top?_current h.filter?_eq h.having?_eq).kept rfl⟩
  | join kind table on =>
    obtain ⟨rfl, rfl⟩ := by simpa [nextOfSelect?] using hnext
    exact .inr ⟨_, rfl,
      (h.modifyCurrent Iff.rfl rfl h.top?_current h.filter?_eq h.having?_eq).kept rfl⟩
  | filter c =>
    obtain ⟨rfl, rfl⟩ := by simpa [nextOfSelect?] using hnext
    have hnone : s.current.filter? = none := h.filter?_eq (.inr rfl)
    have hedit : s.edit (.filter c) =
        .ok (s.modifyCurrent fun b => { b with filter? := some c }) := by
      simp [hnone]
    exact .inr ⟨_, hedit, (h.modifyCurrent (by simp) rfl h.top?_current (by simp)
      fun _ => h.having?_eq (by simp)).kept rfl⟩
  | noFilter =>
    obtain ⟨rfl, rfl⟩ := by simpa [nextOfSelect?] using hnext
    exact .inr ⟨s, rfl, (h.later rfl rfl (by simp) (by simp) (by simp)).kept rfl⟩
  | groupBy e =>
    obtain ⟨hstage, rfl⟩ := by simpa [nextOfSelect?] using hnext
    have hbefore : stage ≠ initial ∧ stage ∈ [initial, sourced, filtered, grouped] := by
      cases stage <;> simp_all [canGroup]
    exact .inr ⟨_, rfl, (h.modifyCurrent (by simp [hbefore.1]) rfl h.top?_current (by simp)
      fun _ => h.having?_eq hbefore.2).kept rfl⟩
  | having c =>
    obtain ⟨rfl, rfl⟩ := by simpa [nextOfSelect?] using hnext
    have hnone : s.current.having? = none := h.having?_eq (by simp)
    have hedit : s.edit (.having c) =
        .ok (s.modifyCurrent fun b => { b with having? := some c }) := by
      simp [hnone]
    exact .inr ⟨_, hedit,
      (h.modifyCurrent (by simp) rfl h.top?_current (by simp) (by simp)).kept rfl⟩
  | union operator fields =>
    obtain ⟨hstage, rfl⟩ := by simpa [nextOfSelect?] using hnext
    have hne := ne_initial (isSourced_of_canUnite hstage)
    exact .inr ⟨_, rfl, (h.addUnion hne operator fields).kept rfl⟩
  | orderBy term =>
    obtain ⟨hstage, rfl⟩ := by simpa [nextOfSelect?] using hnext
    have hne := ne_initial hstage
    let s' : SelectOf γ := { s with orderBy := s.orderBy ++ [term] }
    have hs' : s'.IsStaged ordered sources := h.later rfl rfl (by simp [hne]) (by simp) (by simp)
    exact .inr ⟨s', rfl, hs'.kept rfl⟩
  | lock lock =>
    obtain ⟨-, rfl⟩ := by simpa [nextOfSelect?] using hnext
    let s' : SelectOf γ := { s with lock? := some lock }
    have hs' : s'.IsStaged stage sources := h.later rfl rfl Iff.rfl id id
    exact .inr ⟨s', rfl, hs'.kept rfl⟩
  | option option =>
    obtain ⟨-, rfl⟩ := by simpa [nextOfSelect?] using hnext
    let s' : SelectOf γ := { s with options := s.options ++ [option] }
    have hs' : s'.IsStaged stage sources := h.later rfl rfl Iff.rfl id id
    exact .inr ⟨s', rfl, hs'.kept rfl⟩
  | field e => cases hnext
  | assign a => cases hnext
  | returning fields => cases hnext

end SelectOf.IsStaged

end Selections

section Changes

structure InsertTemplate.IsStaged (s : InsertTemplate) (stage : BuildStage) : Prop where
  assignments_ne : stage ≠ noValues → s.assignments ≠ []

structure UpdateOf.IsStaged (s : UpdateOf γ) (stage : BuildStage) : Prop where
  assignments_ne : stage ≠ noValues → s.assignments ≠ []
  filter?_eq : stage = noValues ∨ stage = hasValues → s.filter? = none

structure DeleteOf.IsStaged (s : DeleteOf γ) (stage : BuildStage) : Prop where
  filter?_eq : stage = unfiltered → s.filter? = none

variable {stage stage' : BuildStage} {e : Edit γ}

theorem InsertTemplate.IsStaged.edit {s : InsertTemplate} (h : s.IsStaged stage)
    (hnext : stage.nextOfInsert? e = some stage') : (s.edit e).IsStaged stage' := by
  cases e with
  | assign a => exact ⟨fun _ => by simp [InsertTemplate.edit]⟩
  | returning fields =>
    obtain ⟨rfl, rfl⟩ := by simpa [nextOfInsert?] using hnext
    exact ⟨fun _ => h.assignments_ne (by simp)⟩
  | _ => cases hnext

/-- An edit that may follow is refused for a changed table that is to be read only. -/
theorem UpdateOf.IsStaged.edit {s : UpdateOf γ} (h : s.IsStaged stage)
    (hnext : stage.nextOfUpdate? e = some stage') :
    (∃ table, s.edit e = .error (.updateTableInFrom table)) ∨
      ∃ s', s.edit e = .ok s' ∧ s'.IsStaged stage' := by
  cases e with
  | assign a =>
    obtain ⟨hstage, rfl⟩ := by simpa [nextOfUpdate?] using hnext
    exact .inr ⟨_, rfl, fun _ => by simp, fun _ => h.filter?_eq hstage⟩
  | source table =>
    obtain ⟨rfl, rfl⟩ := by simpa [nextOfUpdate?] using hnext
    by_cases hsame : table.sameInstance s.table
    · exact .inl ⟨table.name, by simp [hsame]⟩
    · have hedit : s.edit (.source table) = .ok { s with sources := s.sources ++ [table] } := by
        simp [hsame]
      exact .inr ⟨_, hedit, h.assignments_ne, h.filter?_eq⟩
  | filter c =>
    obtain ⟨rfl, rfl⟩ := by simpa [nextOfUpdate?] using hnext
    have hnone : s.filter? = none := h.filter?_eq (.inr rfl)
    have hedit : s.edit (.filter c) = .ok { s with filter? := some c } := by
      simp [hnone]
    exact .inr ⟨_, hedit, fun _ => h.assignments_ne (by simp), by simp⟩
  | noFilter =>
    obtain ⟨rfl, rfl⟩ := by simpa [nextOfUpdate?] using hnext
    exact .inr ⟨s, rfl, fun _ => h.assignments_ne (by simp), by simp⟩
  | returning fields =>
    obtain ⟨rfl, rfl⟩ := by simpa [nextOfUpdate?] using hnext
    exact .inr ⟨_, rfl, fun _ => h.assignments_ne (by simp), by simp⟩
  | _ => cases hnext

theorem DeleteOf.IsStaged.edit {s : DeleteOf γ} (h : s.IsStaged stage)
    (hnext : stage.nextOfDelete? e = some stage') :
    ∃ s', s.edit e = .ok s' ∧ s'.IsStaged stage' := by
  cases e with
  | join kind table on =>
    obtain ⟨rfl, rfl⟩ := by simpa [nextOfDelete?] using hnext
    exact ⟨_, rfl, ⟨h.filter?_eq⟩⟩
  | filter c =>
    obtain ⟨rfl, rfl⟩ := by simpa [nextOfDelete?] using hnext
    have hnone : s.filter? = none := h.filter?_eq rfl
    have hedit : s.edit (.filter c) = .ok { s with filter? := some c } := by
      simp [hnone]
    exact ⟨_, hedit, ⟨by simp⟩⟩
  | noFilter =>
    obtain ⟨rfl, rfl⟩ := by simpa [nextOfDelete?] using hnext
    exact ⟨s, rfl, ⟨by simp⟩⟩
  | returning fields =>
    obtain ⟨rfl, rfl⟩ := by simpa [nextOfDelete?] using hnext
    exact ⟨_, rfl, ⟨by simp⟩⟩
  | _ => cases hnext

end Changes

section Builders

/-- What the stage says of the statement, for a selection with the tables that were named. -/
def StatementOf.IsStaged (stage : BuildStage) (sources : List Table) : StatementOf γ → Prop
  | select s => s.IsStaged stage sources
  | insert s => s.IsStaged stage
  | update s => s.IsStaged stage
  | delete s => s.IsStaged stage
  | truncate _ => True

/-- Why an edit that may follow can be refused. -/
def QueryError.IsRefusal (e : QueryError) : Prop :=
  e = .invalidTop ∨ ∃ table, e = .updateTableInFrom table

variable {stage stage' : BuildStage} {sources : List Table}

theorem StatementOf.IsStaged.edit {s : StatementOf γ} {e : Edit γ} (h : s.IsStaged stage sources)
    (hnext : stage.next? s.kind e = some stage') :
    (∃ error, s.edit e = .error error ∧ error.IsRefusal) ∨
      ∃ s', s.edit e = .ok s' ∧ s'.kind = s.kind ∧
        s'.IsStaged stage' (sources ++ e.source?.toList) := by
  cases s with
  | select s =>
    obtain hedit | ⟨s', hedit, hs'⟩ := SelectOf.IsStaged.edit h hnext
    · exact .inl ⟨.invalidTop, by simp [hedit, Except.map], .inl rfl⟩
    · exact .inr ⟨.select s', by simp [hedit, Except.map], rfl, hs'⟩
  | insert s => exact .inr ⟨_, rfl, rfl, InsertTemplate.IsStaged.edit h hnext⟩
  | update s =>
    obtain ⟨table, hedit⟩ | ⟨s', hedit, hs'⟩ := UpdateOf.IsStaged.edit h hnext
    · exact .inl ⟨_, by simp [hedit, Except.map], .inr ⟨table, rfl⟩⟩
    · exact .inr ⟨.update s', by simp [hedit, Except.map], rfl, hs'⟩
  | delete s =>
    obtain ⟨s', hedit, hs'⟩ := DeleteOf.IsStaged.edit h hnext
    exact .inr ⟨.delete s', by simp [hedit, Except.map], rfl, hs'⟩
  | truncate table => cases hnext

/-- What the stage of a builder says of its statement. -/
def Builder.IsStaged (b : Builder) (sources : List Table) : Prop :=
  b.statement.IsStaged b.stage sources

namespace Builder.IsStaged

variable {b b' : Builder} {result : Except QueryError Builder}

theorem start (start : BuilderStart) : start.builder.IsStaged [] := by
  cases start with
  | select selector =>
    refine ⟨rfl, ?_, fun _ => rfl, fun _ => rfl⟩
    intro body hbody
    rw [List.mem_singleton.1 hbody]
    exact nofun
  | insertInto table => exact ⟨fun h => (h rfl).elim⟩
  | update table => exact ⟨fun h => (h rfl).elim, fun _ => rfl⟩
  | deleteFrom table => exact ⟨fun _ => rfl⟩
  | truncateTable table => trivial

theorem edit (h : b.IsStaged sources) {e : Edit Condition} (hedit : b.edit? e = some result) :
    (∃ error, result = .error error ∧ error.IsRefusal) ∨
      ∃ b', result = .ok b' ∧ b'.IsStaged (sources ++ e.source?.toList) := by
  obtain ⟨stage, hnext, rfl⟩ := Option.map_eq_some_iff.1 hedit
  obtain ⟨error, hs, herror⟩ | ⟨s', hs, -, hs'⟩ := StatementOf.IsStaged.edit h hnext
  · exact .inl ⟨error, by simp [hs, Except.map], herror⟩
  · exact .inr ⟨{ b with statement := s', stage }, by simp [hs, Except.map], hs'⟩

/-- A call that may follow is refused for its content only, and keeps what the stage says. -/
theorem call (h : b.IsStaged sources) {c : BuilderCall} (hcall : b.call? c = some result) :
    (∃ error, result = .error error ∧ error.IsRefusal) ∨
      ∃ b', result = .ok b' ∧ b'.IsStaged (sources ++ c.source?.toList) := by
  cases c with
  | edit e => exact h.edit hcall
  | returning selector =>
    -- the fields to return are no part of what the stage says
    let b' : Builder := { b with selector? := some selector }
    have hb' : b'.IsStaged sources := h
    exact hb'.edit hcall

theorem calls (h : b.IsStaged sources) {cs : List BuilderCall}
    (hcalls : b.calls? cs = some result) :
    (∃ error, result = .error error ∧ error.IsRefusal) ∨
      ∃ b', result = .ok b' ∧ b'.IsStaged (sources ++ cs.filterMap BuilderCall.source?) := by
  induction cs generalizing b sources with
  | nil =>
    obtain rfl := Option.some.inj hcalls
    exact .inr ⟨b, rfl, by simpa using h⟩
  | cons c cs ih =>
    rw [calls?] at hcalls
    cases hcall : b.call? c with
    | none => simp [hcall] at hcalls
    | some step =>
      rw [hcall] at hcalls
      obtain ⟨error, rfl, herror⟩ | ⟨b₁, rfl, hb₁⟩ := h.call hcall
      · exact .inl ⟨error, (Option.some.inj hcalls).symm, herror⟩
      · obtain hrefused | ⟨b', rfl, hb'⟩ := ih hb₁ hcalls
        · exact .inl hrefused
        · refine .inr ⟨b', rfl, ?_⟩
          rw [List.append_assoc] at hb'
          cases hsource : c.source? with
          | none => simpa [hsource] using hb'
          | some table => simpa [hsource] using hb'

end Builder.IsStaged

variable {b : Builder}

/-- At a stage to build from, each part of a selection has the table that was named for it. -/
theorem SelectOf.IsStaged.sources_of_isSourced {s : SelectOf γ} (h : s.IsStaged stage sources)
    (hstage : stage.isSourced) : s.bodies.map (·.source?) = sources.map some := by
  rw [h.sources_eq, if_neg (ne_initial hstage), List.append_nil]

/-- A statement to build from lacks nothing but the fields of its parts. -/
theorem StatementOf.IsStaged.validate_eq {s : StatementOf γ} (h : s.IsStaged stage sources)
    (hcomplete : stage.isComplete s.kind) :
    s.validate =
      if ∃ body ∈ s.parts, body.fields = [] then .error .noSelectFields else .ok () := by
  cases s with
  | select s =>
    apply SelectOf.validate_eq
    intro body hbody
    have hsources := SelectOf.IsStaged.sources_of_isSourced h hcomplete
    have hmem : body.source? ∈ sources.map some := hsources ▸ List.mem_map_of_mem hbody
    obtain ⟨table, -, htable⟩ := List.mem_map.1 hmem
    simp [← htable]
  | insert s =>
    have hstage : stage ≠ noValues := by
      rintro rfl
      cases hcomplete
    have hne : s.assignments ≠ [] := h.assignments_ne hstage
    simp [validate, parts, hne]
  | update s =>
    have hstage : stage ≠ noValues := by
      rintro rfl
      cases hcomplete
    have hne : s.assignments ≠ [] := UpdateOf.IsStaged.assignments_ne h hstage
    simp [validate, parts, hne]
  | delete s => simp [validate, parts]
  | truncate table => simp [validate, parts]

/-- What becomes of a statement to build from. A slot is only in the way of an unprepared one. -/
theorem Builder.IsStaged.build (h : b.IsStaged sources)
    (hcomplete : b.stage.isComplete b.statement.kind) (prepared : Bool) :
    ∃ result, b.build? prepared = some result ∧
      (result = .error .noSelectFields ↔ ∃ body ∈ b.statement.parts, body.fields = []) ∧
      (∀ e, result = .error e → e = .noSelectFields ∨
        prepared = false ∧ ∃ slot, b.statement.firstSlot? = some slot ∧
          e = .unboundParameter slot) ∧
      ∀ built, result = .ok built → built.statement = b.statement := by
  have hvalid := StatementOf.IsStaged.validate_eq h hcomplete
  by_cases hfields : ∃ body ∈ b.statement.parts, body.fields = []
  · rw [if_pos hfields] at hvalid
    have hbuild : b.build? prepared = some (.error .noSelectFields) := by
      cases prepared <;>
        simp [build?, hcomplete, hvalid, StatementOf.checkBuildable, Except.map]
    exact ⟨_, hbuild, by simp [hfields], by simp, by simp⟩
  · rw [if_neg hfields] at hvalid
    -- only the check of an unprepared statement looks for slots
    cases hcheck : if prepared then none else b.statement.firstSlot? with
    | none =>
      have hok : (if prepared then b.statement.validate else b.statement.checkBuildable) =
          .ok () := by
        cases prepared with
        | true => exact hvalid
        | false =>
          have hslot : b.statement.firstSlot? = none := by simpa using hcheck
          simp [StatementOf.checkBuildable, hvalid, hslot]
      refine ⟨.ok _, by rw [build?, if_pos hcomplete, hok]; rfl, by simp [hfields], by simp, ?_⟩
      rintro built ⟨⟩
      cases b.selector? <;> rfl
    | some slot =>
      obtain ⟨hprepared, hslot⟩ : prepared = false ∧ b.statement.firstSlot? = some slot := by
        cases prepared <;> simp_all
      have hbuild : b.build? prepared = some (.error (.unboundParameter slot)) := by
        simp [build?, hcomplete, hvalid, hprepared, hslot, StatementOf.checkBuildable, Except.map]
      refine ⟨_, hbuild, by simp [hfields], ?_, by simp⟩
      rintro e ⟨⟩
      exact .inr ⟨hprepared, slot, hslot, rfl⟩

/-- Calls that the stages let follow are refused for a limit of zero and for a changed table that is
to be read only. What they have made at a stage to build from can be built, unless a part of a
selection has no fields, or slots are left in a statement that is not prepared. Each part of a built
selection has its own table, as the calls named them, and no limit of zero. -/
theorem builders_make_complete_statements (start : BuilderStart) (calls : List BuilderCall) :
    (∀ e, start.builder.calls? calls = some (.error e) → e.IsRefusal) ∧
    ∀ b, start.builder.calls? calls = some (.ok b) → b.stage.isComplete b.statement.kind →
      ∀ prepared, ∃ result, b.build? prepared = some result ∧
        (result = .error .noSelectFields ↔ ∃ body ∈ b.statement.parts, body.fields = []) ∧
        (∀ e, result = .error e → e = .noSelectFields ∨
          prepared = false ∧ ∃ slot, b.statement.firstSlot? = some slot ∧
            e = .unboundParameter slot) ∧
        ∀ built, result = .ok built → built.statement = b.statement ∧
          ∀ s, built.statement = .select s →
            s.bodies.map (·.source?) = (calls.filterMap BuilderCall.source?).map some ∧
              ∀ body ∈ s.bodies, body.top? ≠ some 0 := by
  have hstart := Builder.IsStaged.start start
  constructor
  · intro e he
    obtain ⟨_, ⟨⟩, hrefused⟩ | ⟨_, ⟨⟩, -⟩ := hstart.calls he
    exact hrefused
  · intro b hb hcomplete prepared
    obtain ⟨_, ⟨⟩, -⟩ | ⟨_, ⟨⟩, hstaged⟩ := hstart.calls hb
    rw [List.nil_append] at hstaged
    obtain ⟨result, hresult, hfields, herror, hbuilt⟩ := hstaged.build hcomplete prepared
    refine ⟨result, hresult, hfields, herror, fun built hok => ⟨hbuilt built hok, ?_⟩⟩
    intro s hs
    rw [hbuilt built hok] at hs
    rw [Builder.IsStaged, hs] at hstaged
    rw [hs] at hcomplete
    exact ⟨SelectOf.IsStaged.sources_of_isSourced hstaged hcomplete, hstaged.top?_ne⟩

/-- A chain of two parts, of which the first one has a limit and a condition on groups. The second
part takes the fields that it is given. -/
def chainOfInvoices (fields : List Expr) : List BuilderCall :=
  let invoices : Table := ⟨none, "Invoice", false, ⟨0, 1⟩⟩
  let payments : Table := ⟨none, "Payment", false, ⟨0, 2⟩⟩
  let isPaid : Condition := .of (.compare .eq (.column ⟨invoices, "id", false, .int⟩)
    (.column ⟨payments, "invoice", false, .int⟩))
  [.edit .distinct, .edit (.top 5), .edit (.source invoices), .edit (.filter isPaid),
    .edit (.groupBy (.column ⟨invoices, "id", false, .int⟩)), .edit (.having isPaid),
    .edit (.union .unionAll fields), .edit (.source payments),
    .edit (.orderBy ⟨.slot 3 .int, .ascending⟩)]

/-- With fields for its second part the chain can be built as a prepared statement. Its slot is in
the way otherwise, and a part without fields always is. -/
theorem build_chainOfInvoices :
    let selector : List Field := [⟨.value .int (.int 1), .native .int, false⟩]
    let chain (fields : List Expr) : Option (Except QueryError Builder) :=
      (Builder.select selector).calls? (chainOfInvoices fields)
    ∃ b, chain [.value .int (.int 2)] = some (.ok b) ∧ b.stage.isComplete b.statement.kind ∧
      b.build? false = some (.error (.unboundParameter 3)) ∧
      ∃ built, b.build? true = some (.ok built) ∧ ∃ s, built.statement = .select s ∧
        s.bodies.map (·.source?) =
          [some ⟨none, "Invoice", false, ⟨0, 1⟩⟩, some ⟨none, "Payment", false, ⟨0, 2⟩⟩] ∧
        (∀ body ∈ s.bodies, body.top? ≠ some 0) ∧
        ∃ b', chain [] = some (.ok b') ∧ b'.build? true = some (.error .noSelectFields) := by
  intro selector chain
  refine ⟨_, rfl, rfl, rfl, _, rfl, _, rfl, ?_⟩
  obtain ⟨-, hbuild⟩ := builders_make_complete_statements (.select selector)
    (chainOfInvoices [.value .int (.int 2)])
  obtain ⟨result, ⟨⟩, -, -, hbuilt⟩ := hbuild _ rfl rfl true
  obtain ⟨-, hselect⟩ := hbuilt _ rfl
  obtain ⟨hsources, htop⟩ := hselect _ rfl
  exact ⟨hsources, htop, _, rfl, rfl⟩

end Builders

end TypedSql
