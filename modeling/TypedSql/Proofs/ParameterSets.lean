import Mathlib.Logic.Function.Basic
import TypedSql.Proofs.Prepared
/-!
# Parameters of several sets

Getters are registered on sets, and each registration hands out a parameter. A parameter knows its
position in the set that it comes from, but not the set. A statement prepared with one set takes
each value from the getter at the position of the parameter. For a parameter of this set that is its
own getter. A parameter of another set is filled as well, by a getter that has nothing to do with
it, unless its position is beyond the end of the set.

## Main definitions

- `Registry.register`: a registration on one of several sets.
- `Registry.IsConsistent`: each parameter finds its getter on its own set.
- `StatementOf.withParams`: the statement that uses given parameters.

## Main statements

- `Registry.isConsistent_after`: registering in any order keeps each parameter with its getter.
- `parameters_filled_by_position`: how a statement is filled whose parameters come from any sets.

## Design notes

That a parameter comes from another set cannot be seen in a statement. So the statement is made
from a template, in which the slot with number `k` stands for the `k`-th parameter handed out.
-/

namespace TypedSql

/-- A getter to be registered on the set with a number. Each set has its own type of arguments. -/
structure Registration (α : Nat → Type) where
  set : Nat
  type : ColumnType
  getter : α set → Value

/-- A parameter that was handed out, and what for. -/
structure Issued (α : Nat → Type) where
  registration : Registration α
  param : Param

/-- The sets, and the parameters that they handed out so far. -/
structure Registry (α : Nat → Type) where
  sets : (i : Nat) → PreparedParams (α i) := fun _ => {}
  issued : List (Issued α) := []

section Registering

variable {α : Nat → Type}

/-- What a getter finds in an argument for a set, if it was registered on this set. -/
def Registration.value? (r : Registration α) {i : Nat} (a : α i) : Option Value :=
  if h : r.set = i then some (r.getter (h ▸ a)) else none

namespace Registry

def register (g : Registry α) (r : Registration α) : Registry α :=
  let pushed := (g.sets r.set).push r.type r.getter
  ⟨Function.update g.sets r.set pushed.2, g.issued ++ [⟨r, pushed.1⟩]⟩

/-- The sets after registrations in the order of the list. -/
def after (rs : List (Registration α)) : Registry α := rs.foldl register {}

/-- Each parameter has the type of its registration, and its getter stands at its position in the
set that it comes from. -/
def IsConsistent (g : Registry α) : Prop :=
  ∀ p ∈ g.issued, p.param.type = p.registration.type ∧
    (g.sets p.registration.set).getters[p.param.index]? = some p.registration.getter

variable {g : Registry α}

/-- A registration changes no getter that is there already. -/
theorem exists_getters_register (g : Registry α) (r : Registration α) (i : Nat) :
    ∃ added, ((g.register r).sets i).getters = (g.sets i).getters ++ added := by
  by_cases hset : i = r.set
  · subst hset
    exact ⟨[r.getter], by simp [register, PreparedParams.push]⟩
  · exact ⟨[], by simp [register, Function.update_of_ne hset]⟩

theorem IsConsistent.index_lt (h : g.IsConsistent) {p : Issued α} (hp : p ∈ g.issued) :
    p.param.index < (g.sets p.registration.set).getters.length :=
  (List.getElem?_eq_some_iff.1 (h p hp).2).1

theorem IsConsistent.register (h : g.IsConsistent) (r : Registration α) :
    (g.register r).IsConsistent := by
  intro p hp
  rcases List.mem_append.1 hp with hp | hp
  · obtain ⟨htype, hgetter⟩ := h p hp
    obtain ⟨added, hadded⟩ := g.exists_getters_register r p.registration.set
    refine ⟨htype, ?_⟩
    rw [hadded, List.getElem?_append_left (h.index_lt hp), hgetter]
  · obtain rfl := List.mem_singleton.1 hp
    refine ⟨rfl, ?_⟩
    show ((Function.update g.sets r.set _) r.set).getters[(g.sets r.set).getters.length]? = _
    rw [Function.update_self]
    exact List.getElem?_concat_length

/-- Whatever is registered in between, each parameter keeps its getter. -/
theorem isConsistent_after (rs : List (Registration α)) : (after rs).IsConsistent := by
  have hstart : ({} : Registry α).IsConsistent := by
    intro p hp
    cases hp
  suffices hrun : ∀ g : Registry α, g.IsConsistent → (rs.foldl Registry.register g).IsConsistent
    from hrun {} hstart
  induction rs with
  | nil => exact fun g h => h
  | cons r rest ih => exact fun g h => ih (g.register r) (h.register r)

/-- On its own set, a parameter is filled by its own getter. -/
theorem IsConsistent.value_eq (h : g.IsConsistent) {p : Issued α} (hp : p ∈ g.issued) {i : Nat}
    (a : α i) (hset : p.registration.set = i) :
    ((g.sets i).values a)[p.param.index]? = p.registration.value? a := by
  subst hset
  obtain ⟨-, hgetter⟩ := h p hp
  simp [PreparedParams.values, hgetter, Registration.value?]

end Registry

end Registering

section Using

variable {α : Nat → Type} (ps : List (Issued α))

/-- The binding of a parameter in the place of the slot that stands for it. -/
def Binding.withParams : Binding → Binding
  | fixed type v => .fixed type v
  | slot k type =>
    match ps[k]? with
    | some p => .slot p.param.index p.param.type.sqlType
    | none => .slot k type

/-- The statement that uses parameters in the places of the slots that stand for them. -/
def StatementOf.withParams (s : Statement) : Statement := s.mapBindings (Binding.withParams ps)

/-- The parameter that a binding of a template stands for, if there is one. -/
def Binding.issued? : Binding → Option (Issued α)
  | fixed _ _ => none
  | slot k _ => ps[k]?

variable {ps}

theorem Binding.mem_of_issued? {b : Binding} {p : Issued α} (h : b.issued? ps = some p) :
    p ∈ ps := by
  cases b with
  | fixed type v => cases h
  | slot k type => exact List.mem_of_getElem? h

theorem Binding.withParams_of_issued? {b : Binding} {p : Issued α} (h : b.issued? ps = some p) :
    b.withParams ps = .slot p.param.index p.param.type.sqlType := by
  cases b with
  | fixed type v => cases h
  | slot k type =>
    have hp : ps[k]? = some p := h
    rw [withParams, hp]

-- it becomes the operand of the parameter
example (p : Issued α) : ((Binding.slot 0 .int).withParams [p]).expr = p.param.operand := rfl

/-- The binding stands for no parameter, or for one that was handed out at a position below `n`. -/
def Binding.IsBelow (ps : List (Issued α)) (n : Nat) (b : Binding) : Prop :=
  ∀ p ∈ b.issued? ps, p.param.index < n

/-- Each slot of the template stands for a parameter. -/
def StatementOf.IsTemplateOf (d : Dialect) (ps : List (Issued α)) (s : Statement) : Prop :=
  ∀ k type, .slot k type ∈ (s.compile d .bind).bindings → k < ps.length

theorem Binding.isBound_withParams_iff {slots : List Value} {b : Binding}
    (h : ∀ k type, b = .slot k type → k < ps.length) :
    (b.withParams ps).IsBound slots ↔ b.IsBelow ps slots.length := by
  cases b with
  | fixed type v => exact iff_of_true trivial fun p hp => by cases hp
  | slot k type =>
    have hk := h k type rfl
    have hp : (slot k type).issued? ps = some ps[k] := List.getElem?_eq_getElem hk
    rw [withParams_of_issued? hp, IsBelow, hp]
    simp [IsBound]

theorem StatementOf.bindings_withParams (d : Dialect) (s : Statement) :
    ((s.withParams ps).compile d .bind).bindings =
      (s.compile d .bind).bindings.map (Binding.withParams ps) := by
  rw [withParams, compile_mapBindings]

end Using

section Filling

variable {α : Nat → Type} {ps : List (Issued α)} {d : Dialect} {s : Statement} {slots : List Value}

theorem StatementOf.IsTemplateOf.isBound_iff (h : s.IsTemplateOf d ps) {x : Binding}
    (hx : x ∈ (s.compile d .bind).bindings) :
    (x.withParams ps).IsBound slots ↔ x.IsBelow ps slots.length := by
  apply Binding.isBound_withParams_iff
  rintro k type rfl
  exact h k type hx

/-- There are parameters for an execution if no parameter of the statement is beyond the values. -/
theorem StatementOf.IsTemplateOf.exists_parameters (h : s.IsTemplateOf d ps)
    (hbelow : ∀ x ∈ (s.compile d .bind).bindings, x.IsBelow ps slots.length) :
    ∃ parameters, ((s.withParams ps).compile d .bind).parameters slots = .ok parameters := by
  apply Binding.exists_resolveFrom
  rw [bindings_withParams, List.forall_mem_map]
  exact fun x hx => (h.isBound_iff hx).2 (hbelow x hx)

/-- Otherwise the first one that is beyond them is the error. -/
theorem StatementOf.IsTemplateOf.exists_unbound (h : s.IsTemplateOf d ps)
    (hbeyond : ¬ ∀ x ∈ (s.compile d .bind).bindings, x.IsBelow ps slots.length) :
    ∃ before x after p, (s.compile d .bind).bindings = before ++ x :: after ∧
      (∀ y ∈ before, y.IsBelow ps slots.length) ∧ x.issued? ps = some p ∧
      slots.length ≤ p.param.index ∧
      ((s.withParams ps).compile d .bind).parameters slots =
        .error (.unboundParameter p.param.index) := by
  have hunbound : ¬ ∀ y ∈ (s.compile d .bind).bindings.map (Binding.withParams ps),
      y.IsBound slots := by
    rw [List.forall_mem_map]
    exact fun hall => hbeyond fun x hx => (h.isBound_iff hx).1 (hall x hx)
  obtain ⟨before', index, type, after', hsplit, hbefore', hindex⟩ :=
    Binding.exists_first_unbound hunbound
  have hparameters : ((s.withParams ps).compile d .bind).parameters slots =
      .error (.unboundParameter index) := by
    rw [Compiled.parameters, bindings_withParams, hsplit]
    exact Binding.resolveFrom_unbound _ 0 hbefore' hindex type after'
  -- the bindings of the template fall into the same parts
  obtain ⟨before, rest, hbindings, rfl, hrest⟩ := List.map_eq_append_iff.1 hsplit
  obtain ⟨x, after, rfl, hx, -⟩ := List.map_eq_cons_iff.1 hrest
  have hmem : x ∈ (s.compile d .bind).bindings := by
    rw [hbindings]
    exact List.mem_append_right before List.mem_cons_self
  cases x with
  | fixed type' v => cases hx
  | slot k type' =>
    have hk := h k type' hmem
    have hp : (Binding.slot k type').issued? ps = some ps[k] := List.getElem?_eq_getElem hk
    rw [Binding.withParams_of_issued? hp] at hx
    obtain ⟨rfl, -⟩ := Binding.slot.inj hx
    refine ⟨before, _, after, _, hbindings, ?_, hp, hindex, hparameters⟩
    intro y hy
    apply (h.isBound_iff (hbindings ▸ List.mem_append_left _ hy)).1
    exact List.forall_mem_map.1 hbefore' y hy

/-- What an execution binds for a parameter is the value at its position, of the type that the
parameter was handed out for. -/
theorem StatementOf.exists_value_of_parameters {parameters : List Parameter}
    (h : ((s.withParams ps).compile d .bind).parameters slots = .ok parameters) {j : Nat}
    {x : Binding} (hx : (s.compile d .bind).bindings[j]? = some x) {p : Issued α}
    (hp : x.issued? ps = some p) :
    ∃ parameter v, parameters[j]? = some parameter ∧ slots[p.param.index]? = some v ∧
      parameter.content = (p.param.type.sqlType, v) := by
  have hcontents := Binding.resolveFrom_content h
  rw [bindings_withParams, List.map_map, ← List.map_map] at hcontents
  have hplace := congrArg (·[j]?) hcontents
  simp only [List.getElem?_map, hx, Option.map_some, Binding.withParams_of_issued? hp,
    Binding.content?] at hplace
  cases hparameter : parameters[j]? with
  | none => simp [hparameter] at hplace
  | some parameter =>
    cases hslot : slots[p.param.index]? with
    | none => simp [hparameter, hslot] at hplace
    | some v =>
      refine ⟨parameter, v, rfl, rfl, ?_⟩
      simpa [hparameter, hslot, eq_comm] using hplace

/-- If the values are those of a set, it is what a getter of this set finds, and for a parameter of
this set what its own getter finds. -/
theorem Registry.IsConsistent.exists_getter_of_parameters {g : Registry α} (hg : g.IsConsistent)
    {i : Nat} {a : α i} {parameters : List Parameter}
    (h : ((s.withParams g.issued).compile d .bind).parameters ((g.sets i).values a) =
      .ok parameters) {j : Nat} {x : Binding}
    (hx : (s.compile d .bind).bindings[j]? = some x) {p : Issued α}
    (hp : x.issued? g.issued = some p) :
    ∃ parameter getter, parameters[j]? = some parameter ∧
      (g.sets i).getters[p.param.index]? = some getter ∧
      parameter.content = (p.param.type.sqlType, getter a) ∧
      (p.registration.set = i → p.registration.value? a = some (getter a)) := by
  obtain ⟨parameter, v, hparameter, hv, hcontent⟩ := StatementOf.exists_value_of_parameters h hx hp
  obtain ⟨getter, hgetter, rfl⟩ : ∃ getter, (g.sets i).getters[p.param.index]? = some getter ∧
      getter a = v := by
    simpa [PreparedParams.values] using hv
  refine ⟨parameter, getter, hparameter, hgetter, hcontent, ?_⟩
  intro hset
  rw [← hg.value_eq (Binding.mem_of_issued? hp) a hset]
  exact hv

end Filling

section Executing

variable {α : Nat → Type} {σ κ : Type}

/-- A statement prepared with the set `i` is filled by position. If all its parameters have
positions in the set, it is rendered and runs, and each place gets what the getter at the position
of its parameter finds in the argument; for a parameter of the set `i` that is its own getter, and
its position is in the set. Otherwise the first parameter in the text that is beyond the end of the
set, which is none of its own, is reported as unbound, and no call is made. -/
theorem parameters_filled_by_position (rs : List (Registration α)) (i : Nat) (a : α i)
    (b : Backend σ κ) (calling : Calling) (db : Database) (options : ExecuteOptions)
    (t? : Option (Transaction κ)) {s : Statement} {built : Built} {q : Executable}
    (htemplate : s.IsTemplateOf db.dialect (Registry.after rs).issued)
    (hbuilt : built.statement = s.withParams (Registry.after rs).issued)
    (hq : q.ArisesFrom built) :
    let ps := (Registry.after rs).issued
    let set := (Registry.after rs).sets i
    let bindings := (s.compile db.dialect .bind).bindings
    (∀ p ∈ ps, p.registration.set = i → p.param.index < set.getters.length) ∧
    ((∀ x ∈ bindings, x.IsBelow ps set.getters.length) → ∃ sql parameters,
      (∀ (j : Nat) (x : Binding) (p : Issued α), bindings[j]? = some x → x.issued? ps = some p →
        ∃ parameter getter, parameters[j]? = some parameter ∧
          set.getters[p.param.index]? = some getter ∧
          parameter.content = (p.param.type.sqlType, getter a) ∧
          (p.registration.set = i → p.registration.value? a = some (getter a))) ∧
      ∀ (defaultMode : ParameterMode) (session : Session σ),
        ((q.render db.dialect (set.values a)).run session).1.1 = .ok (sql, parameters) ∧
        RunsCommand b calling db options.debugName? t? built
          ⟨sql, built.statement.kind, options.timeout?.or db.timeout?, parameters⟩
          (q.execute b calling db defaultMode options (some (set.values a)) t?) session) ∧
    ((¬ ∀ x ∈ bindings, x.IsBelow ps set.getters.length) → ∃ before x after p,
      bindings = before ++ x :: after ∧ (∀ y ∈ before, y.IsBelow ps set.getters.length) ∧
      x.issued? ps = some p ∧ set.getters.length ≤ p.param.index ∧ p.registration.set ≠ i ∧
      ∀ (defaultMode : ParameterMode) (session : Session σ),
        ((q.render db.dialect (set.values a)).run session).1.1 =
          .error (.unboundParameter p.param.index) ∧
        StopsAtSlot p.param.index t?
          (q.execute b calling db defaultMode options (some (set.values a)) t?) session) := by
  intro ps set bindings
  have hsound := hq.isSound
  have hconsistent := Registry.isConsistent_after rs
  have hlength : (set.values a).length = set.getters.length := List.length_map _
  have hown : ∀ p ∈ ps, p.registration.set = i → p.param.index < set.getters.length := by
    rintro p hp rfl
    exact hconsistent.index_lt hp
  have hrendered : ∀ session : Session σ,
      ((q.render db.dialect (set.values a)).run session).1.1 =
        built.statement.renderWith db.dialect (set.values a) := by
    intro session
    obtain ⟨q', logs, -, hrun⟩ := hsound.render db.dialect (set.values a) session
    rw [hrun]
  refine ⟨hown, ?filled, ?unbound⟩
  case filled =>
    intro hall
    rw [← hlength] at hall
    obtain ⟨parameters, hparameters⟩ := htemplate.exists_parameters hall
    have hrender : built.statement.renderWith db.dialect (set.values a) =
        .ok ((built.statement.compile db.dialect .bind).sql, parameters) := by
      rw [hbuilt, StatementOf.renderWith, hparameters]
      rfl
    refine ⟨(built.statement.compile db.dialect .bind).sql, parameters, ?_, ?_⟩
    · intro j x p hx hp
      exact hconsistent.exists_getter_of_parameters hparameters hx hp
    · intro defaultMode session
      exact ⟨(hrendered session).trans hrender,
        hsound.runsCommand b calling db defaultMode options (some (set.values a)) t? rfl hrender
          session⟩
  case unbound =>
    intro hbeyond
    rw [← hlength] at hbeyond
    obtain ⟨before, x, after, p, hbindings, hbefore, hp, hindex, hparameters⟩ :=
      htemplate.exists_unbound hbeyond
    rw [hlength] at hbefore hindex
    rw [← hbuilt] at hparameters
    refine ⟨before, x, after, p, hbindings, hbefore, hp, hindex, ?_, ?_⟩
    · intro hset
      exact absurd (hown p (Binding.mem_of_issued? hp) hset) (Nat.not_lt.2 hindex)
    · intro defaultMode session
      refine ⟨?_, hsound.stopsAtSlot b calling db defaultMode options (some (set.values a)) t? rfl
        hparameters session⟩
      rw [hrendered, StatementOf.renderWith, hparameters]
      rfl

/-- Registrations on two sets: a number on the first, and two texts on the second. -/
def registrations : List (Registration fun _ => Value) :=
  [⟨0, .native .int, id⟩, ⟨1, .native .text, id⟩, ⟨1, .native .text, id⟩]

/-- The template of a selection of invoices by the first parameter and another one. -/
def selectionByParams (k : Nat) : Statement :=
  let invoices : Table := { schema? := none, name := "Invoice", enclosed := false, id := ⟨0, 0⟩ }
  let column (name : String) (type : SqlType) : Expr :=
    .column { table := invoices, name, enclosed := false, type }
  .select
    { head :=
        { fields := [column "Id" .int]
          source? := some invoices
          filter? := some (.and (.of (.compare .eq (column "Id" .int) (.slot 0 .int)))
            (.of (.compare .eq (column "Note" .text) (.slot k .text)))) } }

/-- The second parameter comes from the second set. In a statement prepared with the first set it
gets the number that belongs to the first parameter, as a text. -/
theorem renderWith_param_of_other_set :
    let g := Registry.after registrations
    (∃ p, g.issued[1]? = some p ∧ p.registration.set = 1 ∧ p.param.type = .native .text) ∧
      ((selectionByParams 1).withParams g.issued).renderWith .sqlServer
          ((g.sets 0).values (.int 7)) =
        .ok ("SELECT Id FROM Invoice WHERE (Id=@0) AND (Note=@1)",
          [⟨"@0", .int, .int 7⟩, ⟨"@1", .text, .int 7⟩]) := by
  refine ⟨⟨_, rfl, rfl, rfl⟩, ?_⟩
  decide +kernel

/-- The first parameter is filled by its own getter next to one of the other set. The third one has
a position that the first set has not, and there the statement stops. -/
theorem executions_of_selectionByParams :
    let g := Registry.after registrations
    let values := (g.sets 0).values (.int 7)
    let db : Database := { id := 0, name := "main", dialect := .sqlServer }
    let session : Session Scripted := { backend := [] }
    let built (k : Nat) : Built := .query ⟨(selectionByParams k).withParams g.issued, []⟩
    let execution (k : Nat) :=
      ({ built := built k } : Executable).execute Scripted.backend .blocking db .bind {}
        (some values) none
    (∃ sql parameters, (∃ p, parameters[0]? = some p ∧ p.content = (.int, .int 7)) ∧
      RunsCommand Scripted.backend .blocking db none none (built 1)
        ⟨sql, .select, none, parameters⟩ (execution 1) session) ∧
    StopsAtSlot 1 none (execution 2) session := by
  intro g values db session built execution
  have hbindings : ∀ k ∈ [1, 2], ((selectionByParams k).compile .sqlServer .bind).bindings =
      [.slot 0 .int, .slot k .text] := by decide +kernel
  have htemplate : ∀ k ∈ [1, 2], (selectionByParams k).IsTemplateOf .sqlServer g.issued := by
    intro k hk j type hj
    rw [hbindings k hk] at hj
    rcases List.mem_pair.1 hj with hj | hj <;> cases hj
    · decide
    · rcases List.mem_pair.1 hk with rfl | rfl <;> decide
  have hbuilt (k : Nat) : (built k).statement = (selectionByParams k).withParams g.issued := rfl
  constructor
  · obtain ⟨-, hfilled, -⟩ := parameters_filled_by_position registrations 0 (.int 7)
      Scripted.backend .blocking db {} none (htemplate 1 (by simp)) (hbuilt 1) .fresh
    have hbelow : ∀ x ∈ ((selectionByParams 1).compile .sqlServer .bind).bindings,
        x.IsBelow g.issued (g.sets 0).getters.length := by
      rw [hbindings 1 (by simp)]
      intro x hx p hp
      rcases List.mem_pair.1 hx with rfl | rfl <;> (cases hp; decide)
    obtain ⟨sql, parameters, hplaces, hruns⟩ := hfilled hbelow
    refine ⟨sql, parameters, ?_, (hruns .bind session).2⟩
    obtain ⟨parameter, getter, hparameter, hgetter, hcontent, -⟩ := hplaces 0 (.slot 0 .int) _
      (by rw [hbindings 1 (by simp)]; rfl) rfl
    obtain rfl : getter = id := (Option.some.inj hgetter).symm
    exact ⟨parameter, hparameter, hcontent⟩
  · obtain ⟨-, -, hunbound⟩ := parameters_filled_by_position registrations 0 (.int 7)
      Scripted.backend .blocking db {} none (htemplate 2 (by simp)) (hbuilt 2) .fresh
    have hbeyond : ¬ ∀ x ∈ ((selectionByParams 2).compile .sqlServer .bind).bindings,
        x.IsBelow g.issued (g.sets 0).getters.length := by
      rw [hbindings 2 (by simp)]
      intro hbelow
      exact absurd (hbelow (.slot 2 .text) (by simp) _ rfl) (by decide)
    obtain ⟨before, x, after, p, hsplit, -, hp, hindex, -, hstops⟩ := hunbound hbeyond
    have hx : x ∈ [.slot 0 .int, .slot 2 .text] := by
      rw [← hbindings 2 (by simp), hsplit]
      exact List.mem_append_right before List.mem_cons_self
    have hp1 : p.param.index = 1 := by
      rcases List.mem_pair.1 hx with rfl | rfl
      · obtain rfl := Option.some.inj hp
        exact absurd hindex (by decide)
      · obtain rfl := Option.some.inj hp
        rfl
    rw [hp1] at hstops
    exact (hstops .bind session).2

end Executing

end TypedSql
