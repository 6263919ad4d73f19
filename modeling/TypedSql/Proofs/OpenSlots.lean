import TypedSql.Proofs.Registration
import TypedSql.Statement.Query
/-!
# Open slots

A statement that is built without values for its slots should have none. What building looks at is
compared with what rendering registers: the two differ in the expressions that a changing statement
returns, at any depth. So a built statement can be rendered if and only if these have no slots, and
otherwise a slot that one of them returns is found when the statement is rendered.

## Main definitions

- `Binding.isSlot`: whether a leaf is a slot.
- `StatementOf.returned`, `Condition.returned`, `StatementOf.allReturned`: the expressions that a
  statement returns, and those that it and the statements nested in it return.

## Main statements

- `StatementOf.exists_returned_of_isSlot`: a slot that building does not find is returned.
- `StatementOf.mem_leaves_of_returned`: what is returned is registered.
- `buildable_renders_iff`: when a statement that was built can be rendered.
-/

namespace TypedSql

/-- Whether a leaf is a slot. -/
def Binding.isSlot : Binding → Bool
  | fixed _ _ => false
  | slot _ _ => true

section Returning

variable {γ δ : Type}

/-- The expressions that a changing statement returns. -/
def StatementOf.returned : StatementOf γ → List Expr
  | .insert s => s.returning
  | .update s => s.returning
  | .delete s => s.returning
  | _ => []

/-- The expressions that the statement nested in a level returns. -/
def Predicate.returned (p : Predicate γ) : List Expr := p.query?.toList.flatMap StatementOf.returned

/-- The expressions that the statements nested in a condition return, at any depth. -/
def Condition.returned : Condition → List Expr :=
  Condition.fold fun p => p.returned ++ p.children.flatten

/-- The expressions that a statement and those nested in it return, at any depth. -/
def StatementOf.allReturned (s : Statement) : List Expr :=
  s.returned ++ s.conditions.flatMap Condition.returned

theorem StatementOf.returned_map (f : γ → δ) (s : StatementOf γ) :
    (s.map f).returned = s.returned := by
  cases s <;> rfl

theorem Predicate.returned_map (f : γ → δ) (p : Predicate γ) : (p.map f).returned = p.returned := by
  cases p <;> simp [returned, query?, map, StatementOf.returned_map]

theorem Condition.returned_of (p : Predicate Condition) :
    (Condition.of p).returned = p.returned ++ p.children.flatMap Condition.returned := by
  rw [returned, fold_of, Predicate.returned_map, Predicate.children_map, List.flatMap_def]

/-- A selection in which only selections are nested returns nothing besides its rows. -/
theorem Condition.returned_eq_nil (c : Condition) : c.nestsSelectionsOnly → c.returned = [] := by
  induction c using Condition.induction with
  | h p ih =>
    intro h
    rw [nestsSelectionsOnly_of, Bool.and_eq_true, List.all_eq_true, Option.all_eq_true] at h
    obtain ⟨hquery, hchildren⟩ := h
    rw [returned_of, List.append_eq_nil_iff, List.flatMap_eq_nil_iff, Predicate.returned,
      List.flatMap_eq_nil_iff]
    refine ⟨fun s hs => ?_, fun c hc => ih c hc (hchildren c hc)⟩
    have hselection := hquery s (Option.mem_toList.1 hs)
    cases s with
    | select s => rfl
    | _ => cases hselection

theorem StatementOf.allReturned_eq_nil {s : Statement} (hs : s.isSelection)
    (h : s.nestsSelectionsOnly) : s.allReturned = [] := by
  rw [allReturned, List.append_eq_nil_iff, List.flatMap_eq_nil_iff]
  refine ⟨?_, fun c hc => c.returned_eq_nil (List.all_eq_true.1 h c hc)⟩
  cases s with
  | select s => rfl
  | _ => cases hs

end Returning

section Finding

mutual

/-- An expression in which no slot is found has none among its leaves. -/
theorem Expr.isSlot_eq_false : ∀ {e : Expr}, e.firstSlot? = none → ∀ p ∈ e.leaves, p.isSlot = false
  | .column _, _ => by simp [leaves]
  | .value _ _, _ => by simp [leaves, Binding.isSlot]
  | .slot _ _, h => by simp [firstSlot?] at h
  | .call function args, h => by
    intro p hp
    rw [leaves] at hp
    split at hp
    · cases hp
    · exact Expr.isSlot_eq_false_of_list h p hp
  | .arithmetic _ left right, h => by
    rw [firstSlot?, Option.or_eq_none_iff] at h
    exact List.forall_mem_append.2 ⟨Expr.isSlot_eq_false h.1, Expr.isSlot_eq_false h.2⟩
  | .raw _, _ => by simp [leaves]

theorem Expr.isSlot_eq_false_of_list : ∀ {es : List Expr}, firstSlotOfList? es = none →
    ∀ p ∈ leavesOfList es, p.isSlot = false
  | [], _ => by simp [leavesOfList]
  | e :: rest, h => by
    rw [firstSlotOfList?, Option.or_eq_none_iff] at h
    exact List.forall_mem_append.2 ⟨Expr.isSlot_eq_false h.1, Expr.isSlot_eq_false_of_list h.2⟩

end

-- `Q` holds of all that is no slot; where a condition is looked at, it holds of its leaves
variable {γ : Type} {f : γ → List Binding} {g : γ → Option Nat} {Q : Binding → Prop}

theorem Expr.forall_mem_flatMap_leaves {α : Type} {expr : α → Expr} {as : List α}
    (hQ : ∀ p, p.isSlot = false → Q p)
    (h : (as.findSome? fun a => (expr a).firstSlot?) = none) :
    ∀ p ∈ as.flatMap fun a => (expr a).leaves, Q p := by
  intro p hp
  obtain ⟨a, ha, hp⟩ := List.mem_flatMap.1 hp
  exact hQ p (Expr.isSlot_eq_false (List.findSome?_eq_none_iff.1 h a ha) p hp)

theorem forall_mem_flatMap_filter {c? : Option γ} (h : c?.bind g = none)
    (hc : ∀ c ∈ c?.toList, g c = none → ∀ p ∈ f c, Q p) : ∀ p ∈ c?.toList.flatMap f, Q p := by
  intro p hp
  obtain ⟨c, hmem, hpc⟩ := List.mem_flatMap.1 hp
  obtain rfl : c? = some c := Option.mem_toList.1 hmem
  exact hc c hmem h p hpc

theorem forall_mem_flatMap_joins {joins : List (Join γ)}
    (h : (joins.findSome? fun j => g j.on) = none)
    (hc : ∀ c ∈ joins.map Join.on, g c = none → ∀ p ∈ f c, Q p) :
    ∀ p ∈ (joins.map Join.on).flatMap f, Q p := by
  intro p hp
  obtain ⟨c, hmem, hp⟩ := List.mem_flatMap.1 hp
  obtain ⟨j, hj, rfl⟩ := List.mem_map.1 hmem
  exact hc j.on hmem (List.findSome?_eq_none_iff.1 h j hj) p hp

theorem SelectBody.forall_mem_leavesWith {b : SelectBody γ} (hQ : ∀ p, p.isSlot = false → Q p)
    (h : b.firstSlotWith? g = none) (hc : ∀ c ∈ b.conditions, g c = none → ∀ p ∈ f c, Q p) :
    ∀ p ∈ b.leavesWith f, Q p := by
  simp only [firstSlotWith?, Option.or_eq_none_iff] at h
  obtain ⟨⟨⟨⟨hfields, hjoins⟩, hfilter⟩, hgroupBy⟩, hhaving⟩ := h
  simp only [conditions, List.forall_mem_append] at hc
  obtain ⟨⟨hc_joins, hc_filter⟩, hc_having⟩ := hc
  simp only [leavesWith, List.forall_mem_append]
  exact ⟨⟨⟨⟨Expr.forall_mem_flatMap_leaves hQ hfields, forall_mem_flatMap_joins hjoins hc_joins⟩,
    forall_mem_flatMap_filter hfilter hc_filter⟩, Expr.forall_mem_flatMap_leaves hQ hgroupBy⟩,
    forall_mem_flatMap_filter hhaving hc_having⟩

theorem SelectOf.forall_mem_leavesWith {s : SelectOf γ} (hQ : ∀ p, p.isSlot = false → Q p)
    (h : s.firstSlotWith? g = none) (hc : ∀ c ∈ s.conditions, g c = none → ∀ p ∈ f c, Q p) :
    ∀ p ∈ s.leavesWith f, Q p := by
  simp only [firstSlotWith?, Option.or_eq_none_iff] at h
  obtain ⟨hbodies, horderBy⟩ := h
  rw [leavesWith, List.forall_mem_append]
  refine ⟨?_, Expr.forall_mem_flatMap_leaves hQ horderBy⟩
  intro p hp
  obtain ⟨b, hb, hp⟩ := List.mem_flatMap.1 hp
  refine b.forall_mem_leavesWith hQ (List.findSome?_eq_none_iff.1 hbodies b hb) ?_ p hp
  intro c hmem
  exact hc c (List.mem_flatMap.2 ⟨b, hb, hmem⟩)

/-- Where no slot is found in a statement, its leaves are no slots, leaves of conditions in which
none is found, or returned. -/
theorem StatementOf.forall_mem_leavesWith {s : StatementOf γ} (hQ : ∀ p, p.isSlot = false → Q p)
    (h : s.firstSlotWith? g = none) (hc : ∀ c ∈ s.conditions, g c = none → ∀ p ∈ f c, Q p)
    (hreturned : ∀ p ∈ s.returned.flatMap Expr.leaves, Q p) : ∀ p ∈ s.leavesWith f, Q p := by
  cases s with
  | select s => exact s.forall_mem_leavesWith hQ h hc
  | insert s =>
    exact List.forall_mem_append.2 ⟨Expr.forall_mem_flatMap_leaves hQ h, hreturned⟩
  | update s =>
    rw [firstSlotWith?, Option.or_eq_none_iff] at h
    simp only [leavesWith, UpdateOf.leavesWith, List.forall_mem_append]
    exact ⟨⟨Expr.forall_mem_flatMap_leaves hQ h.1, forall_mem_flatMap_filter h.2 hc⟩, hreturned⟩
  | delete s =>
    rw [firstSlotWith?, Option.or_eq_none_iff] at h
    simp only [conditions, List.forall_mem_append] at hc
    simp only [leavesWith, DeleteOf.leavesWith, List.flatMap_append, List.forall_mem_append]
    exact ⟨⟨forall_mem_flatMap_joins h.1 hc.1, forall_mem_flatMap_filter h.2 hc.2⟩, hreturned⟩
  | truncate table => simp [leavesWith]

theorem Predicate.forall_mem_leavesWith {level : Predicate γ}
    (hQ : ∀ p, p.isSlot = false → Q p) (h : level.firstSlotWith? g = none)
    (hc : ∀ c ∈ level.children, g c = none → ∀ p ∈ f c, Q p)
    (hreturned : ∀ p ∈ level.returned.flatMap Expr.leaves, Q p) :
    ∀ p ∈ level.leavesWith f, Q p := by
  have hexpr {e : Expr} (he : e.firstSlot? = none) : ∀ p ∈ e.leaves, Q p :=
    fun p hp => hQ p (Expr.isSlot_eq_false he p hp)
  cases level with
  | compare op left right =>
    rw [firstSlotWith?, Option.or_eq_none_iff] at h
    exact List.forall_mem_append.2 ⟨hexpr h.1, hexpr h.2⟩
  | and left right =>
    rw [firstSlotWith?, Option.or_eq_none_iff] at h
    exact List.forall_mem_append.2
      ⟨hc left (by simp [children]) h.1, hc right (by simp [children]) h.2⟩
  | or left right =>
    rw [firstSlotWith?, Option.or_eq_none_iff] at h
    exact List.forall_mem_append.2
      ⟨hc left (by simp [children]) h.1, hc right (by simp [children]) h.2⟩
  | not inner => exact hc inner (by simp [children]) h
  | between expr low high negated =>
    simp only [firstSlotWith?, Option.or_eq_none_iff] at h
    simp only [leavesWith, List.forall_mem_append]
    exact ⟨⟨hexpr h.1.1, hexpr h.1.2⟩, hexpr h.2⟩
  | inList expr items negated =>
    rw [firstSlotWith?, Option.or_eq_none_iff] at h
    exact List.forall_mem_append.2 ⟨hexpr h.1, Expr.forall_mem_flatMap_leaves hQ h.2⟩
  | inQuery expr query negated =>
    rw [firstSlotWith?, Option.or_eq_none_iff] at h
    refine List.forall_mem_append.2 ⟨hexpr h.1, query.forall_mem_leavesWith hQ h.2 hc ?_⟩
    simpa [returned, query?] using hreturned
  | existsQuery query negated =>
    refine query.forall_mem_leavesWith hQ h hc ?_
    simpa [returned, query?] using hreturned
  | isNull expr negated => exact hexpr h
  | like kind expr pattern =>
    rw [firstSlotWith?, Option.or_eq_none_iff] at h
    exact List.forall_mem_append.2 ⟨hexpr h.1, hexpr h.2⟩
  | raw sql => simp [leavesWith]

section Mapping

variable {δ : Type} (first : δ → Option Nat) (k : γ → δ)

theorem SelectBody.firstSlotWith?_map (b : SelectBody γ) :
    (b.map k).firstSlotWith? first = b.firstSlotWith? (first ∘ k) := by
  simp only [firstSlotWith?, map_fields, map_joins, map_filter?, map_groupBy, map_having?,
    List.findSome?_map, Option.bind_map, Function.comp_def, Join.map_on]

theorem SelectOf.firstSlotWith?_map (s : SelectOf γ) :
    (s.map k).firstSlotWith? first = s.firstSlotWith? (first ∘ k) := by
  simp only [firstSlotWith?, bodies_map, map_orderBy, List.findSome?_map, Function.comp_def,
    SelectBody.firstSlotWith?_map]

theorem StatementOf.firstSlotWith?_map (s : StatementOf γ) :
    (s.map k).firstSlotWith? first = s.firstSlotWith? (first ∘ k) := by
  cases s with
  | select s => exact s.firstSlotWith?_map first k
  | insert s => rfl
  | update s => simp [firstSlotWith?, map, UpdateOf.map, Option.bind_map]
  | delete s =>
    simp [firstSlotWith?, map, DeleteOf.map, List.findSome?_map, Option.bind_map, Join.map_on,
      Function.comp_def]
  | truncate table => rfl

theorem Predicate.firstSlotWith?_map (p : Predicate γ) :
    (p.map k).firstSlotWith? first = p.firstSlotWith? (first ∘ k) := by
  cases p <;> simp [firstSlotWith?, map, StatementOf.firstSlotWith?_map]

end Mapping

theorem Condition.firstSlot?_of (p : Predicate Condition) :
    (Condition.of p).firstSlot? = p.firstSlotWith? Condition.firstSlot? := by
  rw [firstSlot?, fold_of, Predicate.firstSlotWith?_map, Function.id_comp]

/-- A slot that is not found in a condition is returned by a statement that is nested in it. -/
theorem Condition.mem_returned_of_isSlot (c : Condition) : c.firstSlot? = none →
    ∀ p ∈ c.leaves, p.isSlot = false ∨ p ∈ c.returned.flatMap Expr.leaves := by
  induction c using Condition.induction with
  | h level ih =>
    intro h
    rw [firstSlot?_of] at h
    rw [leaves_of, returned_of]
    refine level.forall_mem_leavesWith (fun p hp => .inl hp) h ?_ ?_
    · intro c hc hnone p hp
      refine (ih c hc hnone p hp).imp_right fun hmem => ?_
      simp only [List.flatMap_append, List.mem_append, List.mem_flatMap] at hmem ⊢
      obtain ⟨e, he, hp⟩ := hmem
      exact .inr ⟨e, ⟨c, hc, he⟩, hp⟩
    · intro p hp
      rw [List.flatMap_append]
      exact .inr (List.mem_append_left _ hp)

theorem StatementOf.mem_returned_of_isSlot {s : Statement} (h : s.firstSlot? = none) :
    ∀ p ∈ s.leaves, p.isSlot = false ∨ p ∈ s.allReturned.flatMap Expr.leaves := by
  refine s.forall_mem_leavesWith (fun p hp => .inl hp) h ?_ ?_
  · intro c hc hnone p hp
    refine (c.mem_returned_of_isSlot hnone p hp).imp_right fun hmem => ?_
    simp only [allReturned, List.flatMap_append, List.mem_append, List.mem_flatMap] at hmem ⊢
    obtain ⟨e, he, hp⟩ := hmem
    exact .inr ⟨e, ⟨c, hc, he⟩, hp⟩
  · intro p hp
    rw [allReturned, List.flatMap_append]
    exact .inr (List.mem_append_left _ hp)

end Finding

section Registering

variable {γ : Type} {f : γ → List Binding} {p : Binding}

theorem StatementOf.mem_leavesWith_of_returned {s : StatementOf γ}
    (hp : p ∈ s.returned.flatMap Expr.leaves) : p ∈ s.leavesWith f := by
  cases s with
  | select s => cases hp
  | insert s => exact List.mem_append_right _ hp
  | update s => exact List.mem_append_right _ hp
  | delete s => exact List.mem_append_right _ hp
  | truncate table => cases hp

theorem StatementOf.mem_leavesWith_of_condition {s : StatementOf γ} {c : γ} (hc : c ∈ s.conditions)
    (hp : p ∈ f c) : p ∈ s.leavesWith f := by
  cases s with
  | select s =>
    obtain ⟨b, hb, hc⟩ := List.mem_flatMap.1 hc
    refine List.mem_append_left _ (List.mem_flatMap.2 ⟨b, hb, ?_⟩)
    simp only [SelectBody.conditions, List.mem_append] at hc
    simp only [SelectBody.leavesWith, List.mem_append]
    obtain (hc | hc) | hc := hc
    · exact .inl (.inl (.inl (.inr (List.mem_flatMap.2 ⟨c, hc, hp⟩))))
    · exact .inl (.inl (.inr (List.mem_flatMap.2 ⟨c, hc, hp⟩)))
    · exact .inr (List.mem_flatMap.2 ⟨c, hc, hp⟩)
  | insert s => cases hc
  | update s =>
    exact List.mem_append_left _ (List.mem_append_right _ (List.mem_flatMap.2 ⟨c, hc, hp⟩))
  | delete s => exact List.mem_append_left _ (List.mem_flatMap.2 ⟨c, hc, hp⟩)
  | truncate table => cases hc

theorem Predicate.mem_leavesWith_of_returned {level : Predicate γ}
    (hp : p ∈ level.returned.flatMap Expr.leaves) : p ∈ level.leavesWith f := by
  cases level with
  | inQuery expr query negated =>
    refine List.mem_append_right _ (query.mem_leavesWith_of_returned ?_)
    simpa [returned, query?] using hp
  | existsQuery query negated =>
    refine query.mem_leavesWith_of_returned ?_
    simpa [returned, query?] using hp
  | _ => cases hp

theorem Predicate.mem_leavesWith_of_child {level : Predicate γ} {c : γ} (hc : c ∈ level.children)
    (hp : p ∈ f c) : p ∈ level.leavesWith f := by
  cases level with
  | and left right =>
    obtain rfl | rfl : c = left ∨ c = right := by simpa [children] using hc
    · exact List.mem_append_left _ hp
    · exact List.mem_append_right _ hp
  | or left right =>
    obtain rfl | rfl : c = left ∨ c = right := by simpa [children] using hc
    · exact List.mem_append_left _ hp
    · exact List.mem_append_right _ hp
  | not inner =>
    obtain rfl : c = inner := by simpa [children] using hc
    exact hp
  | inQuery expr query negated =>
    exact List.mem_append_right _ (query.mem_leavesWith_of_condition hc hp)
  | existsQuery query negated => exact query.mem_leavesWith_of_condition hc hp
  | _ => cases hc

/-- What a nested statement returns is among the leaves of the condition. -/
theorem Condition.mem_leaves_of_returned (c : Condition) :
    p ∈ c.returned.flatMap Expr.leaves → p ∈ c.leaves := by
  induction c using Condition.induction with
  | h level ih =>
    intro hp
    rw [returned_of, List.flatMap_append] at hp
    rw [leaves_of]
    obtain hp | hp := List.mem_append.1 hp
    · exact level.mem_leavesWith_of_returned hp
    · rw [List.flatMap_assoc] at hp
      obtain ⟨c, hc, hp⟩ := List.mem_flatMap.1 hp
      exact level.mem_leavesWith_of_child hc (ih c hc hp)

/-- What a statement returns, or one that is nested in it, is among its leaves. -/
theorem StatementOf.mem_leaves_of_returned {s : Statement}
    (hp : p ∈ s.allReturned.flatMap Expr.leaves) : p ∈ s.leaves := by
  rw [allReturned, List.flatMap_append] at hp
  obtain hp | hp := List.mem_append.1 hp
  · exact s.mem_leavesWith_of_returned hp
  · rw [List.flatMap_assoc] at hp
    obtain ⟨c, hc, hp⟩ := List.mem_flatMap.1 hp
    exact s.mem_leavesWith_of_condition hc (c.mem_leaves_of_returned hp)

end Registering

section Building

variable {s : Statement}

theorem StatementOf.firstSlot?_of_checkBuildable (h : s.checkBuildable = .ok ()) :
    s.firstSlot? = none := by
  rw [checkBuildable] at h
  cases hvalid : s.validate with
  | error e => simp [hvalid] at h
  | ok _ =>
    cases hslot : s.firstSlot? with
    | none => rfl
    | some index => simp [hvalid, hslot] at h

theorem StatementOf.compile_bindings_perm (d : Dialect) (s : Statement) :
    ((s.compile d .bind).bindings).Perm s.leaves := by
  rw [compile_bind]
  exact s.bindings_render_perm d

/-- Without any values, a binding is bound unless it is a slot. -/
theorem Binding.isBound_nil_iff (p : Binding) : p.IsBound [] ↔ p.isSlot = false := by
  cases p with
  | fixed type v => simp [IsBound, isSlot]
  | slot index type => simp [IsBound, isSlot]

/-- The parameters of a statement can be found without values for slots if and only if it has none.
Otherwise the first one among the bindings is reported. -/
theorem StatementOf.parameters_nil (d : Dialect) (s : Statement) :
    ((∀ p ∈ s.leaves, p.isSlot = false) →
      ∃ parameters, (s.compile d .bind).parameters [] = .ok parameters) ∧
    ((¬ ∀ p ∈ s.leaves, p.isSlot = false) → ∃ before index type after,
      (s.compile d .bind).bindings = before ++ .slot index type :: after ∧
      (∀ p ∈ before, p.isSlot = false) ∧
      (s.compile d .bind).parameters [] = .error (.unboundParameter index)) := by
  have hbound : (∀ p ∈ (s.compile d .bind).bindings, p.IsBound []) ↔
      ∀ p ∈ s.leaves, p.isSlot = false := by
    simp only [Binding.isBound_nil_iff, (s.compile_bindings_perm d).mem_iff]
  rw [← hbound]
  refine ⟨Binding.exists_resolveFrom d.placeholderStyle 0, fun h => ?_⟩
  obtain ⟨before, index, type, after, hsplit, hbefore, hindex⟩ := Binding.exists_first_unbound h
  refine ⟨before, index, type, after, hsplit, fun p hp => p.isBound_nil_iff.1 (hbefore p hp), ?_⟩
  rw [Compiled.parameters, Binding.resolve, hsplit]
  exact Binding.resolveFrom_unbound _ 0 hbefore hindex type after

/-- A statement that is built has no slots except in what it returns, or a statement nested in it
does. So it can be rendered if and only if no slot is returned, and a slot without a value is
reported otherwise; a selection in which only selections are nested returns none. -/
theorem buildable_renders_iff (d : Dialect) (h : s.checkBuildable = .ok ()) :
    ((∃ sql parameters, s.renderWith d [] = .ok (sql, parameters)) ↔
      ∀ e ∈ s.allReturned, ∀ p ∈ e.leaves, p.isSlot = false) ∧
    (∀ error, s.renderWith d [] = .error error → ∃ index type,
      error = .unboundParameter index ∧
        ∃ e ∈ s.allReturned, Binding.slot index type ∈ e.leaves) ∧
    (s.isSelection → s.nestsSelectionsOnly →
      ∃ sql parameters, s.renderWith d [] = .ok (sql, parameters)) := by
  have hleaves := s.mem_returned_of_isSlot (StatementOf.firstSlot?_of_checkBuildable h)
  have hclosed : (∀ p ∈ s.leaves, p.isSlot = false) ↔
      ∀ e ∈ s.allReturned, ∀ p ∈ e.leaves, p.isSlot = false := by
    constructor
    · intro hnone e he p hp
      exact hnone p (s.mem_leaves_of_returned (List.mem_flatMap.2 ⟨e, he, hp⟩))
    · intro hnone p hp
      obtain hslot | hreturned := hleaves p hp
      · exact hslot
      · obtain ⟨e, he, hp⟩ := List.mem_flatMap.1 hreturned
        exact hnone e he p hp
  obtain ⟨hfound, hfails⟩ := s.parameters_nil d
  rw [hclosed] at hfound hfails
  have hrenders (hnone : ∀ e ∈ s.allReturned, ∀ p ∈ e.leaves, p.isSlot = false) :
      ∃ sql parameters, s.renderWith d [] = .ok (sql, parameters) := by
    obtain ⟨parameters, hparameters⟩ := hfound hnone
    exact ⟨_, parameters, by rw [StatementOf.renderWith, hparameters]; rfl⟩
  refine ⟨⟨?_, hrenders⟩, ?_, ?_⟩
  · rintro ⟨sql, parameters, hrender⟩
    by_contra hslot
    obtain ⟨before, index, type, after, -, -, herror⟩ := hfails hslot
    rw [StatementOf.renderWith, herror] at hrender
    cases hrender
  · intro error herror
    have hslot : ¬ ∀ e ∈ s.allReturned, ∀ p ∈ e.leaves, p.isSlot = false := by
      intro hnone
      obtain ⟨sql, parameters, hrender⟩ := hrenders hnone
      rw [hrender] at herror
      cases herror
    obtain ⟨before, index, type, after, hbindings, -, herror'⟩ := hfails hslot
    have hmem : Binding.slot index type ∈ s.leaves := by
      rw [← (s.compile_bindings_perm d).mem_iff, hbindings]
      exact List.mem_append_right before List.mem_cons_self
    obtain hslot' | hreturned := hleaves _ hmem
    · cases hslot'
    · rw [StatementOf.renderWith, herror'] at herror
      cases herror
      exact ⟨index, type, rfl, List.mem_flatMap.1 hreturned⟩
  · intro hselection hnests
    apply hrenders
    rw [StatementOf.allReturned_eq_nil hselection hnests]
    simp

/-- An insertion of an invoice that returns an expression. -/
def insertReturning (e : Expr) : Statement :=
  let invoices : Table := { schema? := none, name := "Invoice", enclosed := false, id := ⟨0, 0⟩ }
  let id : Column := { table := invoices, name := "Id", enclosed := false, type := .int }
  .insert { table := invoices, assignments := [⟨id, .value .int (.int 1)⟩], returning := [e] }

/-- An insertion that returns a value is built and can be rendered. -/
theorem insertReturning_value_renders :
    let s := insertReturning (.value .int (.int 7))
    s.checkBuildable = .ok () ∧
      ∃ sql parameters, s.renderWith .postgres [] = .ok (sql, parameters) := by
  intro s
  have hbuildable : s.checkBuildable = .ok () := by decide
  refine ⟨hbuildable, (buildable_renders_iff .postgres hbuildable).1.2 ?_⟩
  decide

/-- An insertion that returns a slot is built too, though no dialect has a rendering for it. -/
theorem insertReturning_slot_unbound :
    (insertReturning (.slot 2 .int)).checkBuildable = .ok () ∧
      ∀ d, (insertReturning (.slot 2 .int)).renderWith d [] = .error (.unboundParameter 2) := by
  refine ⟨by decide, fun d => ?_⟩
  cases d <;> decide +kernel

end Building

end TypedSql
