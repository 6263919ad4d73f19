import TypedSql.Statement.Basic
/-!
# Conditions

Conditions on rows. One level of a condition is a `Predicate`, which holds the conditions below it
as `γ`; a `Condition` is a predicate over conditions. Functions on conditions are folds: they say
what happens at one level and hold the results for the levels below.

## Main definitions

- `Predicate`: one level.
- `Condition`, `Statement`: conditions, and statements whose conditions they are.
- `Condition.fold`: computes bottom-up.
- `Condition.induction`: proves bottom-up.
- `Condition.all?`, `Condition.any?`, `Condition.inList`: conditions from lists.
- `Condition.hasSubquery`, `Condition.firstSlot?`: two folds.
-/

namespace TypedSql

/-- The comparisons. -/
inductive Comparison where
  | eq
  | ne
  | lt
  | le
  | gt
  | ge
deriving DecidableEq, Repr

/-- The written comparison. -/
def Comparison.symbol : Comparison → String
  | eq => "="
  | ne => "<>"
  | lt => "<"
  | le => "<="
  | gt => ">"
  | ge => ">="

/-- The pattern matches: plain or negated, with or without regard to letter case. -/
structure PatternMatch where
  ignoresCase : Bool
  negated : Bool
deriving DecidableEq

/-- One level of a condition. -/
inductive Predicate (γ : Type) where
  | compare (op : Comparison) (left right : Expr)
  | and (left right : γ)
  | or (left right : γ)
  | not (inner : γ)
  | between (expr low high : Expr) (negated : Bool)
  | inList (expr : Expr) (items : List Expr) (negated : Bool)
  | inQuery (expr : Expr) (query : StatementOf γ) (negated : Bool)
  | existsQuery (query : StatementOf γ) (negated : Bool)
  | isNull (expr : Expr) (negated : Bool)
  | like (kind : PatternMatch) (expr pattern : Expr)
  | raw (sql : String)

/-- A condition on rows. -/
inductive Condition where
  | of (p : Predicate Condition)

/-- A statement whose conditions are conditions. -/
abbrev Statement := StatementOf Condition

/-- A chain of selections. -/
abbrev Select := SelectOf Condition

/-- A change of rows. -/
abbrev Update := UpdateOf Condition

/-- A removal of rows. -/
abbrev Delete := DeleteOf Condition

namespace Predicate

variable {γ δ : Type}

/-- The same level over other conditions. -/
def map (f : γ → δ) : Predicate γ → Predicate δ
  | compare op left right => .compare op left right
  | and left right => .and (f left) (f right)
  | or left right => .or (f left) (f right)
  | not inner => .not (f inner)
  | between expr low high negated => .between expr low high negated
  | inList expr items negated => .inList expr items negated
  | inQuery expr query negated => .inQuery expr (query.map f) negated
  | existsQuery query negated => .existsQuery (query.map f) negated
  | isNull expr negated => .isNull expr negated
  | like kind expr pattern => .like kind expr pattern
  | raw sql => .raw sql

/-- The conditions directly below. -/
def children : Predicate γ → List γ
  | and left right => [left, right]
  | or left right => [left, right]
  | not inner => [inner]
  | inQuery _ query _ => query.conditions
  | existsQuery query _ => query.conditions
  | _ => []

/-- Whether the level nests a statement or a condition below does. -/
def hasSubqueryWith (hasSubquery : γ → Bool) : Predicate γ → Bool
  | inQuery .. => true
  | existsQuery .. => true
  | and left right => hasSubquery left || hasSubquery right
  | or left right => hasSubquery left || hasSubquery right
  | not inner => hasSubquery inner
  | _ => false

/-- The first parameter slot in text order. -/
def firstSlotWith? (firstSlot? : γ → Option Nat) : Predicate γ → Option Nat
  | compare _ left right => left.firstSlot?.or right.firstSlot?
  | and left right => (firstSlot? left).or (firstSlot? right)
  | or left right => (firstSlot? left).or (firstSlot? right)
  | not inner => firstSlot? inner
  | between expr low high _ => (expr.firstSlot?.or low.firstSlot?).or high.firstSlot?
  | inList expr items _ => expr.firstSlot?.or (items.findSome? Expr.firstSlot?)
  | inQuery expr query _ => expr.firstSlot?.or (query.firstSlotWith? firstSlot?)
  | existsQuery query _ => query.firstSlotWith? firstSlot?
  | isNull expr _ => expr.firstSlot?
  | like _ expr pattern => expr.firstSlot?.or pattern.firstSlot?
  | raw _ => none

end Predicate

namespace Condition

variable {ρ : Type}

section Fold

variable (step : Predicate ρ → ρ)

mutual

/-- Computes bottom-up: `step` gets one level with the results of the levels below. -/
def fold : Condition → ρ
  | .of p => step (foldPredicate p)

/-- The results below a level. -/
def foldPredicate : Predicate Condition → Predicate ρ
  | .compare op left right => .compare op left right
  | .and left right => .and left.fold right.fold
  | .or left right => .or left.fold right.fold
  | .not inner => .not inner.fold
  | .between expr low high negated => .between expr low high negated
  | .inList expr items negated => .inList expr items negated
  | .inQuery expr query negated => .inQuery expr (foldStatement query) negated
  | .existsQuery query negated => .existsQuery (foldStatement query) negated
  | .isNull expr negated => .isNull expr negated
  | .like kind expr pattern => .like kind expr pattern
  | .raw sql => .raw sql

/-- The results in a statement. -/
def foldStatement : StatementOf Condition → StatementOf ρ
  | .select ⟨head, unions, orderBy, lock?, options⟩ =>
    .select ⟨foldBody head, foldUnions unions, orderBy, lock?, options⟩
  | .insert s => .insert s
  | .update ⟨table, assignments, sources, filter?, returning⟩ =>
    .update ⟨table, assignments, sources, foldOption filter?, returning⟩
  | .delete ⟨table, joins, filter?, returning⟩ =>
    .delete ⟨table, foldJoins joins, foldOption filter?, returning⟩
  | .truncate table => .truncate table

/-- The results in a selection. -/
def foldBody : SelectBody Condition → SelectBody ρ
  | ⟨distinct, top?, fields, source?, hints, joins, filter?, groupBy, having?⟩ =>
    ⟨distinct, top?, fields, source?, hints, foldJoins joins, foldOption filter?, groupBy,
      foldOption having?⟩

/-- The results in the later selections of a chain. -/
def foldUnions :
    List (SetOperator × SelectBody Condition) → List (SetOperator × SelectBody ρ)
  | [] => []
  | (operator, body) :: rest => (operator, foldBody body) :: foldUnions rest

/-- The results in joins. -/
def foldJoins : List (Join Condition) → List (Join ρ)
  | [] => []
  | ⟨kind, table, on⟩ :: rest => ⟨kind, table, on.fold⟩ :: foldJoins rest

/-- The result of a condition that may be missing. -/
def foldOption : Option Condition → Option ρ
  | none => none
  | some c => some c.fold

end

theorem foldOption_eq_map (c? : Option Condition) : foldOption step c? = c?.map (fold step) := by
  cases c? <;> rfl

theorem foldJoins_eq_map (joins : List (Join Condition)) :
    foldJoins step joins = joins.map (Join.map (fold step)) := by
  induction joins with
  | nil => rfl
  | cons j rest ih => cases j; simp [foldJoins, Join.map, ih]

theorem foldBody_eq_map (body : SelectBody Condition) :
    foldBody step body = body.map (fold step) := by
  cases body
  simp [foldBody, SelectBody.map, foldJoins_eq_map, foldOption_eq_map]

theorem foldUnions_eq_map (unions : List (SetOperator × SelectBody Condition)) :
    foldUnions step unions =
      unions.map fun (operator, body) => (operator, body.map (fold step)) := by
  induction unions with
  | nil => rfl
  | cons u rest ih => simp [foldUnions, foldBody_eq_map, ih]

theorem foldStatement_eq_map (s : Statement) : foldStatement step s = s.map (fold step) := by
  cases s with
  | select s =>
    simp [foldStatement, StatementOf.map, SelectOf.map, foldBody_eq_map, foldUnions_eq_map]
  | insert s => rfl
  | update s => simp [foldStatement, StatementOf.map, UpdateOf.map, foldOption_eq_map]
  | delete s =>
    simp [foldStatement, StatementOf.map, DeleteOf.map, foldJoins_eq_map, foldOption_eq_map]
  | truncate table => rfl

/-- One level of a fold. -/
theorem fold_of (p : Predicate Condition) : fold step (.of p) = step (p.map (fold step)) := by
  cases p <;> simp [fold, foldPredicate, Predicate.map, foldStatement_eq_map]

end Fold

section Induction

set_option linter.unusedSectionVars false

variable {motive : Condition → Prop}
variable (h : ∀ p : Predicate Condition, (∀ c ∈ p.children, motive c) → motive (.of p))

include h

mutual

/-- Proves bottom-up: a level may assume the property of the conditions directly below. -/
theorem induction : ∀ c, motive c
  | .of p => h p (induction_children p)

theorem induction_children : ∀ p : Predicate Condition, ∀ c ∈ p.children, motive c
  | .and left right => by simpa [Predicate.children] using ⟨induction left, induction right⟩
  | .or left right => by simpa [Predicate.children] using ⟨induction left, induction right⟩
  | .not inner => by simpa [Predicate.children] using induction inner
  | .inQuery _ query _ => induction_statement query
  | .existsQuery query _ => induction_statement query
  | .compare .. => by simp [Predicate.children]
  | .between .. => by simp [Predicate.children]
  | .inList .. => by simp [Predicate.children]
  | .isNull .. => by simp [Predicate.children]
  | .like .. => by simp [Predicate.children]
  | .raw _ => by simp [Predicate.children]

theorem induction_statement : ∀ s : StatementOf Condition, ∀ c ∈ s.conditions, motive c
  | .select ⟨head, unions, _, _, _⟩ => fun c hc => by
    have hh := induction_body head
    have hu := induction_unions unions
    simp only [StatementOf.conditions, SelectOf.conditions, SelectOf.bodies, List.flatMap_cons,
      List.mem_append, List.mem_flatMap, List.mem_map] at hc
    rcases hc with hc | ⟨b, ⟨u, hu', rfl⟩, hc⟩
    · exact hh c hc
    · exact hu u hu' c hc
  | .insert _ => by simp [StatementOf.conditions]
  | .update ⟨_, _, _, filter?, _⟩ => induction_option filter?
  | .delete ⟨_, joins, filter?, _⟩ => fun c hc => by
    have hj := induction_joins joins
    have hf := induction_option filter?
    simp only [StatementOf.conditions, List.mem_append, List.mem_map] at hc
    rcases hc with ⟨j, hj', rfl⟩ | hc
    · exact hj j hj'
    · exact hf c hc
  | .truncate _ => by simp [StatementOf.conditions]

theorem induction_body : ∀ b : SelectBody Condition, ∀ c ∈ b.conditions, motive c
  | ⟨_, _, _, _, _, joins, filter?, _, having?⟩ => fun c hc => by
    have hj := induction_joins joins
    have hf := induction_option filter?
    have hh := induction_option having?
    simp only [SelectBody.conditions, List.mem_append, List.mem_map] at hc
    rcases hc with (⟨j, hj', rfl⟩ | hc) | hc
    · exact hj j hj'
    · exact hf c hc
    · exact hh c hc

theorem induction_unions : ∀ us : List (SetOperator × SelectBody Condition),
    ∀ u ∈ us, ∀ c ∈ u.2.conditions, motive c
  | [] => by simp
  | (_, body) :: rest => fun u hu => by
    have hb := induction_body body
    have hr := induction_unions rest
    rcases List.mem_cons.1 hu with rfl | hu
    · exact hb
    · exact hr u hu

theorem induction_joins : ∀ js : List (Join Condition), ∀ j ∈ js, motive j.on
  | [] => by simp
  | ⟨_, _, on⟩ :: rest => fun j hj => by
    have ho := induction on
    have hr := induction_joins rest
    rcases List.mem_cons.1 hj with rfl | hj
    · exact ho
    · exact hr j hj

theorem induction_option : ∀ c? : Option Condition, ∀ c ∈ c?.toList, motive c
  | none => by simp
  | some c => by simpa using induction c

end

end Induction

/-- Both conditions. -/
def and (left right : Condition) : Condition := .of (.and left right)

/-- Either condition. -/
def or (left right : Condition) : Condition := .of (.or left right)

/-- The opposite of a condition. -/
def not (inner : Condition) : Condition := .of (.not inner)

/-- The conjunction of a list, nested to the left; there is none of no conditions. -/
def all? : List Condition → Option Condition
  | [] => none
  | c :: rest => some (rest.foldl and c)

/-- The disjunction of a list, nested to the left; there is none of no conditions. -/
def any? : List Condition → Option Condition
  | [] => none
  | c :: rest => some (rest.foldl or c)

/-- Membership in a list, which must not be empty. -/
def inList (expr : Expr) (items : List Expr) (negated : Bool) : Except QueryError Condition :=
  if items.isEmpty then .error .emptyInList else .ok (.of (.inList expr items negated))

/-- Whether a nested statement occurs in the condition. -/
def hasSubquery : Condition → Bool := fold (Predicate.hasSubqueryWith id)

/-- The first parameter slot in text order. -/
def firstSlot? : Condition → Option Nat := fold (Predicate.firstSlotWith? id)

end Condition

namespace StatementOf

/-- The first parameter slot that building the statement looks for. -/
def firstSlot? (s : Statement) : Option Nat := s.firstSlotWith? Condition.firstSlot?

/-- Whether tables are declared with aliases, for the kinds of statements that can. -/
def isQualified? (s : Statement) : Option Bool := s.usesAliases? Condition.hasSubquery

end StatementOf

end TypedSql
