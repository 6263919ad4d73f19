import TypedSql.Proofs.Fragment
import TypedSql.Proofs.Traversal
import TypedSql.Statement.Render
import Mathlib.Data.List.Perm.Basic
/-!
# The leaves of a template

The values and the slots of a template in the order of its clauses, with those of nested
statements in their places. The arguments of a count of all rows do not belong to them, since such
a call is written without any.

## Main definitions

- `Expr.leaves`: the leaves of an expression.
- `StatementOf.leavesWith`, `Predicate.leavesWith`: the leaves of one shape, given those of its
  conditions.
- `Condition.leaves`, `StatementOf.leaves`: the leaves at any depth.
- `Condition.nestsSelectionsOnly`: whether each nested statement is a selection.

## Main statements

- `Expr.bindings_render`: rendering an expression registers its leaves.
- `StatementOf.leavesWith_perm`, `Predicate.leavesWith_perm`: permuting the leaves of the conditions
  permutes those of the shape.
-/

namespace TypedSql

section Expressions

namespace Expr

mutual

/-- The values and the slots of an expression, from left to right. -/
def leaves : Expr → List Binding
  | column _ => []
  | value type v => [.fixed type v]
  | slot index type => [.slot index type]
  | call function args => if function = .countAll then [] else leavesOfList args
  | arithmetic _ left right => left.leaves ++ right.leaves
  | raw _ => []

/-- The values and the slots of a list of expressions. -/
def leavesOfList : List Expr → List Binding
  | [] => []
  | e :: rest => e.leaves ++ leavesOfList rest

end

theorem leavesOfList_eq_flatMap (es : List Expr) : leavesOfList es = es.flatMap leaves := by
  induction es with
  | nil => rfl
  | cons e es ih => rw [leavesOfList, ih, List.flatMap_cons]

end Expr

namespace Fragment

@[simp]
theorem bindings_ofText (s : String) : (ofText s).bindings = [] := rfl

@[simp]
theorem bindings_parenthesised (f : Fragment) : f.parenthesised.bindings = f.bindings := by
  simp [parenthesised]

theorem bindings_flatMap {α : Type} (f : α → Fragment) (as : List α) :
    bindings (as.flatMap f) = as.flatMap fun a => (f a).bindings := by
  induction as with
  | nil => rfl
  | cons a as ih => rw [List.flatMap_cons, bindings_append, ih, List.flatMap_cons]

@[simp]
theorem bindings_commaSeparated (fs : List Fragment) :
    (commaSeparated fs).bindings = fs.flatMap bindings := by
  cases fs with
  | nil => rfl
  | cons first rest =>
    induction rest generalizing first with
    | nil => simp
    | cons next rest ih => simp [commaSeparated_cons_cons, ih next]

@[simp]
theorem bindings_listAfter (opening : String) (fs : List Fragment) :
    (listAfter opening fs).bindings = fs.flatMap bindings := by
  cases fs <;> simp [listAfter]

@[simp]
theorem bindings_connected (connective : String) (left right : Fragment) :
    (connected connective left right).bindings = left.bindings ++ right.bindings := by
  simp [connected]

end Fragment

variable (d : Dialect) (qualified : Bool)

/-- A call registers what its arguments do, unless it counts all rows. -/
theorem SqlFunction.bindings_renderCall (function : SqlFunction) (args : List Fragment) :
    (function.renderCall d args).bindings =
      if function = .countAll then [] else args.flatMap Fragment.bindings := by
  cases function <;> simp [renderCall]

mutual

/-- Rendering an expression registers its leaves, each in its place. -/
theorem Expr.bindings_render : ∀ e : Expr, (e.render d qualified).bindings = e.leaves
  | .column c => rfl
  | .value type v => rfl
  | .slot index type => rfl
  | .call function args => by
    rw [render, leaves, SqlFunction.bindings_renderCall, Expr.bindings_renderList args]
  | .arithmetic op left right => by
    simp [render, leaves, Expr.bindings_render left, Expr.bindings_render right]
  | .raw sql => rfl

theorem Expr.bindings_renderList : ∀ es : List Expr,
    (Expr.renderList d qualified es).flatMap Fragment.bindings = Expr.leavesOfList es
  | [] => rfl
  | e :: rest => by
    simp [renderList, leavesOfList, Expr.bindings_render e, Expr.bindings_renderList rest]

end

theorem Expr.flatMap_bindings_render (es : List Expr) :
    (es.map (Expr.render d qualified)).flatMap Fragment.bindings = es.flatMap Expr.leaves := by
  rw [← renderList_eq_map, bindings_renderList, leavesOfList_eq_flatMap]

@[simp]
theorem Expr.bindings_renderCommaSeparated (es : List Expr) :
    (Expr.renderCommaSeparated d qualified es).bindings = es.flatMap Expr.leaves := by
  rw [renderCommaSeparated, Fragment.bindings_commaSeparated, flatMap_bindings_render]

end Expressions

section Shapes

variable {γ δ : Type} (f : γ → List Binding)

/-- The leaves of the values that are assigned. -/
def leavesOfAssignments (assignments : List Assignment) : List Binding :=
  assignments.flatMap fun a => a.value.leaves

/-- The leaves of a selection, clause by clause. -/
def SelectBody.leavesWith (b : SelectBody γ) : List Binding :=
  b.fields.flatMap Expr.leaves ++ (b.joins.map Join.on).flatMap f ++ b.filter?.toList.flatMap f
    ++ b.groupBy.flatMap Expr.leaves ++ b.having?.toList.flatMap f

/-- The leaves of a chain of selections. -/
def SelectOf.leavesWith (s : SelectOf γ) : List Binding :=
  s.bodies.flatMap (SelectBody.leavesWith f) ++ s.orderBy.flatMap fun term => term.expr.leaves

/-- The leaves of a new row. -/
def InsertTemplate.leaves (s : InsertTemplate) : List Binding :=
  leavesOfAssignments s.assignments ++ s.returning.flatMap Expr.leaves

/-- The leaves of an update. -/
def UpdateOf.leavesWith (s : UpdateOf γ) : List Binding :=
  leavesOfAssignments s.assignments ++ s.filter?.toList.flatMap f
    ++ s.returning.flatMap Expr.leaves

/-- The leaves of a removal. -/
def DeleteOf.leavesWith (s : DeleteOf γ) : List Binding :=
  (s.joins.map Join.on ++ s.filter?.toList).flatMap f ++ s.returning.flatMap Expr.leaves

/-- The leaves of a statement, given those of its conditions. -/
def StatementOf.leavesWith : StatementOf γ → List Binding
  | .select s => s.leavesWith f
  | .insert s => s.leaves
  | .update s => s.leavesWith f
  | .delete s => s.leavesWith f
  | .truncate _ => []

/-- The leaves of one level of a condition, given those of the levels below. -/
def Predicate.leavesWith : Predicate γ → List Binding
  | .compare _ left right => left.leaves ++ right.leaves
  | .and left right => f left ++ f right
  | .or left right => f left ++ f right
  | .not inner => f inner
  | .between expr low high _ => expr.leaves ++ low.leaves ++ high.leaves
  | .inList expr items _ => expr.leaves ++ items.flatMap Expr.leaves
  | .inQuery expr query _ => expr.leaves ++ query.leavesWith f
  | .existsQuery query _ => query.leavesWith f
  | .isNull expr _ => expr.leaves
  | .like _ expr pattern => expr.leaves ++ pattern.leaves
  | .raw _ => []

section Mapping

variable (g : δ → γ)

theorem SelectBody.leavesWith_map (b : SelectBody δ) :
    (b.map g).leavesWith f = b.leavesWith (f ∘ g) := by
  cases hfilter : b.filter? <;> cases hhaving : b.having? <;>
    simp [leavesWith, map_joins, map_filter?, map_having?, hfilter, hhaving, Join.map_on,
      List.flatMap_map, Function.comp_def]

theorem SelectOf.leavesWith_map (s : SelectOf δ) :
    (s.map g).leavesWith f = s.leavesWith (f ∘ g) := by
  simp [leavesWith, bodies, map, SelectBody.leavesWith_map, List.flatMap_map]

theorem StatementOf.leavesWith_map (s : StatementOf δ) :
    (s.map g).leavesWith f = s.leavesWith (f ∘ g) := by
  cases s with
  | select s => exact SelectOf.leavesWith_map f g s
  | insert s => rfl
  | update s =>
    cases hfilter : s.filter? <;>
      simp [map, leavesWith, UpdateOf.leavesWith, UpdateOf.map_filter?, hfilter]
  | delete s =>
    cases hfilter : s.filter? <;>
      simp [map, leavesWith, DeleteOf.leavesWith, DeleteOf.map_joins, DeleteOf.map_filter?, hfilter,
        Join.map_on, List.flatMap_map, Function.comp_def]
  | truncate table => rfl

theorem Predicate.leavesWith_map (p : Predicate δ) :
    (p.map g).leavesWith f = p.leavesWith (f ∘ g) := by
  cases p <;> simp [map, leavesWith, StatementOf.leavesWith_map]

end Mapping

section Permuting

variable {f} {f' : γ → List Binding}

theorem SelectBody.leavesWith_perm {b : SelectBody γ} (h : ∀ c ∈ b.conditions, (f c).Perm (f' c)) :
    (b.leavesWith f).Perm (b.leavesWith f') := by
  simp only [conditions, List.mem_append] at h
  have hjoins : ((b.joins.map Join.on).flatMap f).Perm ((b.joins.map Join.on).flatMap f') :=
    List.Perm.flatMap_left _ fun c hc => h c (.inl (.inl hc))
  have hfilter : (b.filter?.toList.flatMap f).Perm (b.filter?.toList.flatMap f') :=
    List.Perm.flatMap_left _ fun c hc => h c (.inl (.inr hc))
  have hhaving : (b.having?.toList.flatMap f).Perm (b.having?.toList.flatMap f') :=
    List.Perm.flatMap_left _ fun c hc => h c (.inr hc)
  exact (((hjoins.append_left _).append hfilter).append_right _).append hhaving

theorem SelectOf.leavesWith_perm {s : SelectOf γ} (h : ∀ c ∈ s.conditions, (f c).Perm (f' c)) :
    (s.leavesWith f).Perm (s.leavesWith f') := by
  refine List.Perm.append_right _ (List.Perm.flatMap_left _ fun b hb => ?_)
  refine SelectBody.leavesWith_perm fun c hc => h c ?_
  exact List.mem_flatMap.2 ⟨b, hb, hc⟩

theorem StatementOf.leavesWith_perm {s : StatementOf γ}
    (h : ∀ c ∈ s.conditions, (f c).Perm (f' c)) : (s.leavesWith f).Perm (s.leavesWith f') := by
  cases s with
  | select s => exact SelectOf.leavesWith_perm h
  | insert s => exact List.Perm.refl _
  | update s => exact ((List.Perm.flatMap_left _ h).append_left _).append_right _
  | delete s => exact (List.Perm.flatMap_left _ h).append_right _
  | truncate table => exact List.Perm.refl _

theorem Predicate.leavesWith_perm {p : Predicate γ} (h : ∀ c ∈ p.children, (f c).Perm (f' c)) :
    (p.leavesWith f).Perm (p.leavesWith f') := by
  cases p with
  | and left right => exact (h left (by simp [children])).append (h right (by simp [children]))
  | or left right => exact (h left (by simp [children])).append (h right (by simp [children]))
  | not inner => exact h inner (by simp [children])
  | inQuery expr query negated => exact (StatementOf.leavesWith_perm h).append_left _
  | existsQuery query negated => exact StatementOf.leavesWith_perm h
  | _ => exact List.Perm.refl _

end Permuting

theorem Predicate.leavesWith_congr {f f' : γ → List Binding} {p : Predicate γ}
    (h : ∀ c ∈ p.children, f c = f' c) : p.leavesWith f = p.leavesWith f' := by
  have hid (f : γ → List Binding) : p.leavesWith f = (p.map f).leavesWith id := by
    rw [leavesWith_map, Function.id_comp]
  rw [hid f, hid f', map_congr h]

theorem StatementOf.leavesWith_congr {f f' : γ → List Binding} {s : StatementOf γ}
    (h : ∀ c ∈ s.conditions, f c = f' c) : s.leavesWith f = s.leavesWith f' := by
  have hid (f : γ → List Binding) : s.leavesWith f = (s.map f).leavesWith id := by
    rw [leavesWith_map, Function.id_comp]
  rw [hid f, hid f', map_congr h]

end Shapes

/-- The values and the slots of a condition, at any depth. -/
def Condition.leaves : Condition → List Binding := Condition.fold (Predicate.leavesWith id)

/-- The values and the slots of a statement, at any depth. -/
def StatementOf.leaves (s : Statement) : List Binding := s.leavesWith Condition.leaves

theorem Condition.leaves_of (p : Predicate Condition) :
    (Condition.of p).leaves = p.leavesWith Condition.leaves := by
  rw [leaves, fold_of, Predicate.leavesWith_map, Function.id_comp]

section Nesting

/-- Whether each statement that is nested in the condition, at any depth, is a selection. -/
def Condition.nestsSelectionsOnly : Condition → Bool :=
  Condition.fold fun p => p.query?.all StatementOf.isSelection && p.children.all id

theorem Condition.nestsSelectionsOnly_of (p : Predicate Condition) :
    (Condition.of p).nestsSelectionsOnly =
      (p.query?.all StatementOf.isSelection && p.children.all Condition.nestsSelectionsOnly) := by
  rw [nestsSelectionsOnly, fold_of, Predicate.query?_map, Predicate.children_map, Option.all_map,
    List.all_map]
  congr 2
  funext s
  exact StatementOf.isSelection_map _ s

/-- Whether each statement that is nested in the statement, at any depth, is a selection. -/
def StatementOf.nestsSelectionsOnly (s : Statement) : Bool :=
  s.conditions.all Condition.nestsSelectionsOnly

end Nesting

end TypedSql
