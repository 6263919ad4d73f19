import TypedSql.Fragment
import Mathlib.Data.List.Perm.Basic
/-!
# Parameters from bindings

Bindings become the parameters of an execution when the slots among them get their values. That
succeeds if and only if each slot has one, and fails at the first slot without. The order of the
parameters is that of the bindings, and what they carry does not depend on it.

## Main definitions

- `Binding.IsBound`: a value, or a slot that has one.
- `Parameter.content`: the type and the value of a parameter, without its name.

## Main statements

- `Binding.exists_resolveFrom_iff`, `Binding.resolveFrom_unbound`: when resolving succeeds, and how
  it fails.
- `Binding.resolve_perm`, `Binding.resolve_content_eq`: permuted bindings have permuted parameters,
  and equal ones the same.
-/

namespace TypedSql

/-- What a parameter carries, apart from its name. -/
def Parameter.content (p : Parameter) : SqlType × Value := (p.type, p.value)

namespace Binding

variable (slots : List Value)

/-- Whether a binding is a value or a slot that has one. -/
def IsBound : Binding → Prop
  | fixed _ _ => True
  | slot index _ => index < slots.length

/-- What the parameter of a binding carries, if there is one. -/
def content? : Binding → Option (SqlType × Value)
  | fixed type v => some (type, v)
  | slot index type => slots[index]?.map fun v => (type, v)

variable {slots}

theorem IsBound.parameter {b : Binding} (h : b.IsBound slots) (name : String) :
    ∃ p, b.parameter name slots = .ok p := by
  cases b with
  | fixed type v => exact ⟨_, rfl⟩
  | slot index type =>
    have hslot : slots[index]? = some slots[index] := List.getElem?_eq_getElem h
    exact ⟨⟨name, type, slots[index]⟩, by rw [Binding.parameter, hslot]⟩

theorem exists_resolveFrom (style : PlaceholderStyle) (position : Nat) {bindings : List Binding}
    (h : ∀ b ∈ bindings, b.IsBound slots) :
    ∃ ps, resolveFrom style slots position bindings = .ok ps := by
  induction bindings generalizing position with
  | nil => exact ⟨[], rfl⟩
  | cons b rest ih =>
    obtain ⟨hb, hrest⟩ := List.forall_mem_cons.1 h
    obtain ⟨p, hp⟩ := hb.parameter (style.placeholder position)
    obtain ⟨ps, hps⟩ := ih (position + 1) hrest
    exact ⟨p :: ps, by rw [resolveFrom, hp, hps]; rfl⟩

/-- The first slot without a value is the error. -/
theorem resolveFrom_unbound (style : PlaceholderStyle) (position : Nat) {before : List Binding}
    (hbefore : ∀ b ∈ before, b.IsBound slots) {index : Nat} (hindex : slots.length ≤ index)
    (type : SqlType) (after : List Binding) :
    resolveFrom style slots position (before ++ .slot index type :: after) =
      .error (.unboundParameter index) := by
  induction before generalizing position with
  | nil =>
    have hslot : slots[index]? = none := List.getElem?_eq_none hindex
    rw [List.nil_append, resolveFrom, Binding.parameter, hslot]
  | cons b rest ih =>
    obtain ⟨hb, hrest⟩ := List.forall_mem_cons.1 hbefore
    obtain ⟨p, hp⟩ := hb.parameter (style.placeholder position)
    rw [List.cons_append, resolveFrom, hp, ih (position + 1) hrest]
    rfl

/-- Where some binding has no value, a slot is the first one without. -/
theorem exists_first_unbound {bindings : List Binding} (h : ¬ ∀ b ∈ bindings, b.IsBound slots) :
    ∃ before index type after, bindings = before ++ .slot index type :: after ∧
      (∀ b ∈ before, b.IsBound slots) ∧ slots.length ≤ index := by
  induction bindings with
  | nil => simp at h
  | cons b rest ih =>
    by_cases hb : b.IsBound slots
    · have hrest : ¬ ∀ b ∈ rest, b.IsBound slots := by
        intro hrest
        exact h (List.forall_mem_cons.2 ⟨hb, hrest⟩)
      obtain ⟨before, index, type, after, rfl, hbefore, hindex⟩ := ih hrest
      exact ⟨b :: before, index, type, after, rfl, List.forall_mem_cons.2 ⟨hb, hbefore⟩, hindex⟩
    · cases b with
      | fixed type v => exact absurd trivial hb
      | slot index type => exact ⟨[], index, type, rest, rfl, by simp, Nat.le_of_not_lt hb⟩

/-- Bindings can be sent if and only if each slot among them has a value. -/
theorem exists_resolveFrom_iff (style : PlaceholderStyle) (position : Nat)
    (bindings : List Binding) :
    (∃ ps, resolveFrom style slots position bindings = .ok ps) ↔
      ∀ b ∈ bindings, b.IsBound slots := by
  constructor
  · rintro ⟨ps, hps⟩
    by_contra hunbound
    obtain ⟨before, index, type, after, rfl, hbefore, hindex⟩ := exists_first_unbound hunbound
    rw [resolveFrom_unbound style position hbefore hindex] at hps
    cases hps
  · exact exists_resolveFrom style position

theorem parameter_content {name : String} {b : Binding} {p : Parameter}
    (h : b.parameter name slots = .ok p) : b.content? slots = some p.content := by
  cases b with
  | fixed type v =>
    cases h
    rfl
  | slot index type =>
    cases hslot : slots[index]? with
    | none =>
      rw [parameter, hslot] at h
      cases h
    | some v =>
      rw [parameter, hslot] at h
      cases h
      rw [content?, hslot]
      rfl

/-- The parameters carry what their bindings stand for, in the same order. -/
theorem resolveFrom_content {style : PlaceholderStyle} {position : Nat}
    {bindings : List Binding} {ps : List Parameter}
    (h : resolveFrom style slots position bindings = .ok ps) :
    bindings.map (content? slots) = (ps.map Parameter.content).map some := by
  induction bindings generalizing position ps with
  | nil =>
    cases h
    rfl
  | cons b rest ih =>
    rw [resolveFrom] at h
    cases hp : b.parameter (style.placeholder position) slots with
    | error e =>
      rw [hp] at h
      cases h
    | ok p =>
      cases hrest : resolveFrom style slots (position + 1) rest with
      | error e =>
        rw [hp, hrest] at h
        cases h
      | ok qs =>
        rw [hp, hrest] at h
        cases h
        rw [List.map_cons, parameter_content hp, ih hrest]
        rfl

variable {style style' : PlaceholderStyle} {bindings bindings' : List Binding}

/-- Whether bindings can be sent depends neither on their order nor on the style. -/
theorem exists_resolve_of_perm (hperm : bindings.Perm bindings') {ps : List Parameter}
    (h : resolve style bindings slots = .ok ps) :
    ∃ ps', resolve style' bindings' slots = .ok ps' := by
  have hbound := (exists_resolveFrom_iff style 0 bindings).1 ⟨ps, h⟩
  apply exists_resolveFrom style' 0
  intro b hb
  exact hbound b (hperm.mem_iff.2 hb)

/-- Bindings in another order have the same parameters in that order. -/
theorem resolve_perm (hperm : bindings.Perm bindings') {ps ps' : List Parameter}
    (h : resolve style bindings slots = .ok ps) (h' : resolve style' bindings' slots = .ok ps') :
    (ps.map Parameter.content).Perm (ps'.map Parameter.content) := by
  have hcontents : ((ps.map Parameter.content).map some).Perm
      ((ps'.map Parameter.content).map some) := by
    rw [← resolveFrom_content h, ← resolveFrom_content h']
    exact hperm.map (content? slots)
  exact (List.map_perm_map_iff fun _ _ => Option.some.inj).1 hcontents

/-- The style has no influence on what the parameters carry. -/
theorem resolve_content_eq {ps ps' : List Parameter} (h : resolve style bindings slots = .ok ps)
    (h' : resolve style' bindings slots = .ok ps') :
    ps.map Parameter.content = ps'.map Parameter.content := by
  have hcontents : (ps.map Parameter.content).map some = (ps'.map Parameter.content).map some := by
    rw [← resolveFrom_content h, ← resolveFrom_content h']
  exact (List.map_inj_right fun _ _ => Option.some.inj).1 hcontents

end Binding

end TypedSql
