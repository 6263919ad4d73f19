import TypedSql.Proofs.OpenSlots
/-!
# The first slot of a selection

Looking for the first slot of a statement and rendering it are two walks over the same tree. In a
selection in which only selections are nested they meet the values and the slots in one order, so
that the slot that is found is the one with the first placeholder of all slots. The one place where
they differ is a count of all rows: it is written without its arguments, but these are looked at.

## Main definitions

- `Binding.firstSlot?`: the first slot among bindings.
- `Expr.countsPlainly`: whether counts of all rows have no arguments.

## Main statements

- `Expr.firstSlot?_eq_leaves`, `SelectOf.firstSlotWith?_eq_leaves`,
  `Predicate.firstSlotWith?_eq_leaves`: the walks over an expression and over one level.
- `Condition.firstSlot?_eq_leaves`: the walks over nested statements.
- `selections_find_first_registered_slot`: the slot that is found and the bindings of a rendering.
-/

namespace TypedSql

/-- The index of a slot. -/
def Binding.slotIndex? : Binding → Option Nat
  | fixed _ _ => none
  | slot index _ => some index

/-- The index of the first slot among bindings. -/
def Binding.firstSlot? (bindings : List Binding) : Option Nat := bindings.findSome? slotIndex?

namespace Binding

theorem firstSlot?_append (bs bs' : List Binding) :
    firstSlot? (bs ++ bs') = (firstSlot? bs).or (firstSlot? bs') := List.findSome?_append

/-- A search that agrees with the first slots of the parts finds the first slot of the whole. -/
theorem findSome?_eq_firstSlot?_flatMap {α : Type} {as : List α} {g : α → Option Nat}
    {f : α → List Binding} (h : ∀ a ∈ as, g a = firstSlot? (f a)) :
    as.findSome? g = firstSlot? (as.flatMap f) := by
  induction as with
  | nil => rfl
  | cons a as ih =>
    obtain ⟨ha, has⟩ := List.forall_mem_cons.1 h
    rw [List.flatMap_cons, firstSlot?_append, ← ih has, ← ha, List.findSome?_cons]
    cases g a <;> rfl

theorem bind_eq_firstSlot?_flatMap {α : Type} {a? : Option α} {g : α → Option Nat}
    {f : α → List Binding} (h : ∀ a ∈ a?.toList, g a = firstSlot? (f a)) :
    a?.bind g = firstSlot? (a?.toList.flatMap f) := by
  cases a? with
  | none => rfl
  | some a => simpa using h

theorem slotIndex?_eq_none_iff (b : Binding) : b.slotIndex? = none ↔ b.isSlot = false := by
  cases b <;> simp [slotIndex?, isSlot]

theorem slotIndex?_eq_some_iff {b : Binding} {index : Nat} :
    b.slotIndex? = some index ↔ ∃ type, b = .slot index type := by
  cases b <;> simp [slotIndex?]

theorem firstSlot?_eq_none_iff {bs : List Binding} :
    firstSlot? bs = none ↔ ∀ b ∈ bs, b.isSlot = false := by
  simp only [firstSlot?, List.findSome?_eq_none_iff, slotIndex?_eq_none_iff]

theorem firstSlot?_eq_some_iff {bs : List Binding} {index : Nat} :
    firstSlot? bs = some index ↔ ∃ before type after, bs = before ++ .slot index type :: after ∧
      ∀ b ∈ before, b.isSlot = false := by
  rw [firstSlot?, List.findSome?_eq_some_iff]
  constructor
  · rintro ⟨before, b, after, rfl, hb, hbefore⟩
    obtain ⟨type, rfl⟩ := slotIndex?_eq_some_iff.1 hb
    exact ⟨before, type, after, rfl, fun b hb => (slotIndex?_eq_none_iff b).1 (hbefore b hb)⟩
  · rintro ⟨before, type, after, rfl, hbefore⟩
    exact ⟨before, _, after, rfl, rfl, fun b hb => (slotIndex?_eq_none_iff b).2 (hbefore b hb)⟩

end Binding

section Expressions

mutual

/-- Whether each count of all rows in the expression is one without arguments. -/
def Expr.countsPlainly : Expr → Bool
  | .call function args => (function != .countAll || args.isEmpty) && Expr.countPlainly args
  | .arithmetic _ left right => left.countsPlainly && right.countsPlainly
  | _ => true

/-- Whether the expressions of a list do so. -/
def Expr.countPlainly : List Expr → Bool
  | [] => true
  | e :: rest => e.countsPlainly && Expr.countPlainly rest

end

mutual

/-- The first slot of an expression is the first one of its leaves. -/
theorem Expr.firstSlot?_eq_leaves : ∀ {e : Expr}, e.countsPlainly →
    e.firstSlot? = Binding.firstSlot? e.leaves
  | .column _, _ => rfl
  | .value _ _, _ => rfl
  | .slot _ _, _ => rfl
  | .call function args, h => by
    rw [countsPlainly, Bool.and_eq_true] at h
    obtain ⟨hcount, hargs⟩ := h
    rw [firstSlot?, leaves]
    split
    · next hall =>
      -- a count of all rows has no arguments in which a slot could be found
      obtain rfl : args = [] := by simpa [hall] using hcount
      rfl
    · exact Expr.firstSlotOfList?_eq_leaves hargs
  | .arithmetic _ left right, h => by
    rw [countsPlainly, Bool.and_eq_true] at h
    rw [firstSlot?, leaves, Binding.firstSlot?_append, Expr.firstSlot?_eq_leaves h.1,
      Expr.firstSlot?_eq_leaves h.2]
  | .raw _, _ => rfl

theorem Expr.firstSlotOfList?_eq_leaves : ∀ {es : List Expr}, Expr.countPlainly es →
    firstSlotOfList? es = Binding.firstSlot? (leavesOfList es)
  | [], _ => rfl
  | e :: rest, h => by
    rw [countPlainly, Bool.and_eq_true] at h
    rw [firstSlotOfList?, leavesOfList, Binding.firstSlot?_append, Expr.firstSlot?_eq_leaves h.1,
      Expr.firstSlotOfList?_eq_leaves h.2]

end

end Expressions

section Levels

-- `g` finds in each condition the first slot of what `f` says are its leaves
variable {γ : Type} {f : γ → List Binding} {g : γ → Option Nat}

theorem SelectBody.firstSlotWith?_eq_leaves {b : SelectBody γ}
    (hexprs : ∀ e ∈ b.exprs, e.countsPlainly)
    (hconditions : ∀ c ∈ b.conditions, g c = Binding.firstSlot? (f c)) :
    b.firstSlotWith? g = Binding.firstSlot? (b.leavesWith f) := by
  simp only [exprs, List.forall_mem_append] at hexprs
  simp only [conditions, List.forall_mem_append] at hconditions
  obtain ⟨hfields, hgroupBy⟩ := hexprs
  obtain ⟨⟨hjoins, hfilter⟩, hhaving⟩ := hconditions
  have hon : (b.joins.findSome? fun j => g j.on) =
      Binding.firstSlot? ((b.joins.map Join.on).flatMap f) := by
    rw [← Binding.findSome?_eq_firstSlot?_flatMap hjoins, List.findSome?_map]
    rfl
  simp only [firstSlotWith?, leavesWith, Binding.firstSlot?_append]
  rw [hon, Binding.findSome?_eq_firstSlot?_flatMap fun e he => Expr.firstSlot?_eq_leaves
      (hfields e he), Binding.findSome?_eq_firstSlot?_flatMap fun e he =>
      Expr.firstSlot?_eq_leaves (hgroupBy e he), Binding.bind_eq_firstSlot?_flatMap hfilter,
    Binding.bind_eq_firstSlot?_flatMap hhaving]

theorem SelectOf.firstSlotWith?_eq_leaves {s : SelectOf γ}
    (hexprs : ∀ e ∈ s.exprs, e.countsPlainly)
    (hconditions : ∀ c ∈ s.conditions, g c = Binding.firstSlot? (f c)) :
    s.firstSlotWith? g = Binding.firstSlot? (s.leavesWith f) := by
  simp only [exprs, List.forall_mem_append, List.forall_mem_map] at hexprs
  obtain ⟨hbodies, horderBy⟩ := hexprs
  have hbody : ∀ b ∈ s.bodies, b.firstSlotWith? g = Binding.firstSlot? (b.leavesWith f) :=
    fun b hb => b.firstSlotWith?_eq_leaves
      (fun e he => hbodies e (List.mem_flatMap.2 ⟨b, hb, he⟩))
      (fun c hc => hconditions c (List.mem_flatMap.2 ⟨b, hb, hc⟩))
  rw [firstSlotWith?, leavesWith, Binding.firstSlot?_append,
    Binding.findSome?_eq_firstSlot?_flatMap hbody,
    Binding.findSome?_eq_firstSlot?_flatMap fun term hterm => Expr.firstSlot?_eq_leaves
      (horderBy term hterm)]

theorem StatementOf.firstSlotWith?_eq_leaves {s : StatementOf γ} (hs : s.isSelection)
    (hexprs : ∀ e ∈ s.exprs, e.countsPlainly)
    (hconditions : ∀ c ∈ s.conditions, g c = Binding.firstSlot? (f c)) :
    s.firstSlotWith? g = Binding.firstSlot? (s.leavesWith f) := by
  cases s with
  | select s => exact s.firstSlotWith?_eq_leaves hexprs hconditions
  | _ => cases hs

theorem Predicate.firstSlotWith?_eq_leaves {p : Predicate γ}
    (hquery : p.query?.all StatementOf.isSelection) (hexprs : ∀ e ∈ p.exprs, e.countsPlainly)
    (hconditions : ∀ c ∈ p.children, g c = Binding.firstSlot? (f c)) :
    p.firstSlotWith? g = Binding.firstSlot? (p.leavesWith f) := by
  have hexpr : ∀ e ∈ p.exprs, e.firstSlot? = Binding.firstSlot? e.leaves :=
    fun e he => Expr.firstSlot?_eq_leaves (hexprs e he)
  cases p with
  | compare op left right =>
    rw [firstSlotWith?, leavesWith, Binding.firstSlot?_append, hexpr left (by simp [exprs]),
      hexpr right (by simp [exprs])]
  | and left right =>
    rw [firstSlotWith?, leavesWith, Binding.firstSlot?_append,
      hconditions left (by simp [children]), hconditions right (by simp [children])]
  | or left right =>
    rw [firstSlotWith?, leavesWith, Binding.firstSlot?_append,
      hconditions left (by simp [children]), hconditions right (by simp [children])]
  | not inner => exact hconditions inner (by simp [children])
  | between expr low high negated =>
    rw [firstSlotWith?, leavesWith, Binding.firstSlot?_append, Binding.firstSlot?_append,
      hexpr expr (by simp [exprs]), hexpr low (by simp [exprs]), hexpr high (by simp [exprs])]
  | inList expr items negated =>
    have hitems : ∀ e ∈ items, e.firstSlot? = Binding.firstSlot? e.leaves :=
      fun e he => hexpr e (by simp [exprs, he])
    rw [firstSlotWith?, leavesWith, Binding.firstSlot?_append, hexpr expr (by simp [exprs]),
      Binding.findSome?_eq_firstSlot?_flatMap hitems]
  | inQuery expr query negated =>
    rw [firstSlotWith?, leavesWith, Binding.firstSlot?_append, hexpr expr (by simp [exprs]),
      query.firstSlotWith?_eq_leaves hquery (fun e he => hexprs e (by simp [exprs, he]))
        hconditions]
  | existsQuery query negated => exact query.firstSlotWith?_eq_leaves hquery hexprs hconditions
  | isNull expr negated => exact hexpr expr (by simp [exprs])
  | like kind expr pattern =>
    rw [firstSlotWith?, leavesWith, Binding.firstSlot?_append, hexpr expr (by simp [exprs]),
      hexpr pattern (by simp [exprs])]
  | raw sql => rfl

end Levels

/-- The first slot of a condition is the first one of its leaves. -/
theorem Condition.firstSlot?_eq_leaves (c : Condition) : c.nestsSelectionsOnly →
    (∀ e ∈ c.exprs, e.countsPlainly) → c.firstSlot? = Binding.firstSlot? c.leaves := by
  induction c using Condition.induction with
  | h p ih =>
    intro hnested hexprs
    rw [nestsSelectionsOnly_of, Bool.and_eq_true, List.all_eq_true] at hnested
    rw [exprs_of, List.forall_mem_append] at hexprs
    obtain ⟨hquery, hchildren⟩ := hnested
    obtain ⟨hlevel, hbelow⟩ := hexprs
    rw [firstSlot?_of, leaves_of]
    refine Predicate.firstSlotWith?_eq_leaves hquery hlevel fun c hc => ih c hc (hchildren c hc) ?_
    exact fun e he => hbelow e (List.mem_flatMap.2 ⟨c, hc, he⟩)

/-- The search for the first slot of a selection agrees with the bindings of its rendering, in
either dialect: it finds none if none of them is a slot, and otherwise the first that is. This
holds if only selections are nested in it and its counts of all rows have no arguments. -/
theorem selections_find_first_registered_slot {s : Statement} (hs : s.isSelection)
    (hnested : s.nestsSelectionsOnly) (hcounts : ∀ e ∈ s.allExprs, e.countsPlainly) (d : Dialect) :
    let bindings := (s.compile d .bind).bindings
    (s.firstSlot? = none ↔ ∀ b ∈ bindings, b.isSlot = false) ∧
    ∀ index, s.firstSlot? = some index ↔ ∃ before type after,
      bindings = before ++ .slot index type :: after ∧ ∀ b ∈ before, b.isSlot = false := by
  have hfirst : s.firstSlot? = Binding.firstSlot? (s.compile d .bind).bindings := by
    rw [StatementOf.allExprs, List.forall_mem_append] at hcounts
    obtain ⟨hexprs, hconditions⟩ := hcounts
    rw [StatementOf.compile_bind, StatementOf.bindings_render_eq d (.inr ⟨hs, hnested⟩)]
    refine StatementOf.firstSlotWith?_eq_leaves hs hexprs fun c hc => ?_
    refine c.firstSlot?_eq_leaves (List.all_eq_true.1 hnested c hc) fun e he => ?_
    exact hconditions e (List.mem_flatMap.2 ⟨c, hc, he⟩)
  exact ⟨hfirst ▸ Binding.firstSlot?_eq_none_iff, fun _ => hfirst ▸ Binding.firstSlot?_eq_some_iff⟩

/-- Two selections united. The first has a value in a selection that is nested in a join, and slots
in a condition that ignores letter case; the second has a limit, and a slot in its condition on
groups. -/
def unionWithSlots : Statement :=
  let invoices (n : UInt64) : Table :=
    { schema? := none, name := "Invoice", enclosed := false, id := ⟨0, n⟩ }
  let nested : Statement := .select { head := { fields := [.value .int (.int 7)] } }
  .select
    { head :=
        { fields := [.call .countAll [], .arithmetic .add (.value .int (.int 1)) (.raw "2")]
          source? := some (invoices 0)
          joins := [⟨.left, invoices 1, .of (.existsQuery nested true)⟩]
          filter? := some (.of (.like ⟨true, false⟩ (.slot 4 .text) (.slot 2 .text))) }
      unions := [(.unionAll,
        { top? := some 3
          fields := [.slot 3 .int]
          source? := some (invoices 2)
          having? := some (.of (.isNull (.slot 0 .int) false)) })]
      orderBy := [⟨.slot 1 .int, .descending⟩] }

/-- The slot that is found there stands behind two values. -/
theorem firstSlot?_unionWithSlots :
    (unionWithSlots.isSelection ∧ unionWithSlots.nestsSelectionsOnly ∧
      ∀ e ∈ unionWithSlots.allExprs, e.countsPlainly) ∧
    unionWithSlots.firstSlot? = some 4 ∧
    ∀ d, ∃ before type after, (unionWithSlots.compile d .bind).bindings =
      before ++ .slot 4 type :: after ∧ ∀ b ∈ before, b.isSlot = false := by
  have hs : unionWithSlots.isSelection := by decide
  have hnested : unionWithSlots.nestsSelectionsOnly := by decide
  have hcounts : ∀ e ∈ unionWithSlots.allExprs, e.countsPlainly := by decide
  have hfirst : unionWithSlots.firstSlot? = some 4 := by decide
  exact ⟨⟨hs, hnested, hcounts⟩, hfirst, fun d =>
    ((selections_find_first_registered_slot hs hnested hcounts d).2 4).1 hfirst⟩

end TypedSql
