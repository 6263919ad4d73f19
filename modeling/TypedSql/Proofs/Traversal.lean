import TypedSql.Proofs.Shape
import TypedSql.Statement.ClauseText
import Mathlib.Data.List.Basic
/-!
# The expressions of a template

The expressions of a template can be listed, and they can be replaced without touching its clauses.
Each is defined for one shape first; for a condition it is a fold, so that nested statements are
reached too.

## Main definitions

- `Predicate.exprs`, `StatementOf.exprs`: the expressions in one shape.
- `Condition.exprs`, `StatementOf.allExprs`: the expressions at any depth.
- `Predicate.query?`, `StatementOf.isSelection`: the nested statement, and whether it selects.
- `Predicate.mapExprs`, `StatementOf.mapExprs`: other expressions in one shape.
- `Condition.mapExprs`, `StatementOf.mapAllExprs`: other expressions at any depth.

## Main statements

- `Condition.exprs_of`: the expressions of a level and of the levels below.
- `Predicate.mapExprs_map`, `StatementOf.mapExprs_map`: the conditions and the expressions of a
  shape are replaced independently.
- `StatementOf.allExprs_mapAllExprs`: the expressions of a template after replacing them.
- `SelectOf.usesAliases_mapExprs`: expressions have no say in whether tables have aliases.
-/

namespace TypedSql

variable {γ δ : Type}

section Listing

/-- The expressions of a selection outside its conditions. -/
def SelectBody.exprs (b : SelectBody γ) : List Expr := b.fields ++ b.groupBy

/-- The expressions of a chain of selections outside its conditions. -/
def SelectOf.exprs (s : SelectOf γ) : List Expr :=
  s.bodies.flatMap SelectBody.exprs ++ s.orderBy.map OrderTerm.expr

/-- The expressions of a new row. -/
def InsertTemplate.exprs (s : InsertTemplate) : List Expr :=
  s.assignments.map Assignment.value ++ s.returning

/-- The expressions of an update outside its condition. -/
def UpdateOf.exprs (s : UpdateOf γ) : List Expr :=
  s.assignments.map Assignment.value ++ s.returning

/-- The expressions of a statement outside its conditions. -/
def StatementOf.exprs : StatementOf γ → List Expr
  | .select s => s.exprs
  | .insert s => s.exprs
  | .update s => s.exprs
  | .delete s => s.returning
  | .truncate _ => []

/-- The expressions of one level. A condition that is taken over as text counts as an expression
that is. -/
def Predicate.exprs : Predicate γ → List Expr
  | .compare _ left right => [left, right]
  | .and _ _ => []
  | .or _ _ => []
  | .not _ => []
  | .between expr low high _ => [expr, low, high]
  | .inList expr items _ => expr :: items
  | .inQuery expr query _ => expr :: query.exprs
  | .existsQuery query _ => query.exprs
  | .isNull expr _ => [expr]
  | .like _ expr pattern => [expr, pattern]
  | .raw sql => [.raw sql]

/-- The expressions of a condition, at any depth. -/
def Condition.exprs : Condition → List Expr :=
  Condition.fold fun p => p.exprs ++ p.children.flatten

/-- The expressions of a statement, at any depth. -/
def StatementOf.allExprs (s : Statement) : List Expr :=
  s.exprs ++ s.conditions.flatMap Condition.exprs

section Mapping

variable (f : γ → δ)

theorem SelectBody.conditions_map (b : SelectBody γ) :
    (b.map f).conditions = b.conditions.map f := by
  cases hfilter : b.filter? <;> cases hhaving : b.having? <;>
    simp [conditions, map, hfilter, hhaving, Join.map_on]

theorem SelectBody.exprs_map (b : SelectBody γ) : (b.map f).exprs = b.exprs := rfl

theorem SelectOf.conditions_map (s : SelectOf γ) : (s.map f).conditions = s.conditions.map f := by
  simp [conditions, bodies, map, SelectBody.conditions_map, List.flatMap_map, List.map_flatMap]

theorem SelectOf.exprs_map (s : SelectOf γ) : (s.map f).exprs = s.exprs := by
  simp [exprs, bodies, map, SelectBody.exprs_map, List.flatMap_map]

theorem StatementOf.conditions_map (s : StatementOf γ) :
    (s.map f).conditions = s.conditions.map f := by
  cases s with
  | select s => exact SelectOf.conditions_map f s
  | update s => cases hfilter : s.filter? <;> simp [conditions, map, UpdateOf.map, hfilter]
  | delete s =>
    cases hfilter : s.filter? <;> simp [conditions, map, DeleteOf.map, hfilter, Join.map_on]
  | _ => rfl

theorem StatementOf.exprs_map (s : StatementOf γ) : (s.map f).exprs = s.exprs := by
  cases s with
  | select s => exact SelectOf.exprs_map f s
  | _ => rfl

theorem Predicate.children_map (p : Predicate γ) : (p.map f).children = p.children.map f := by
  cases p <;> simp [map, children, StatementOf.conditions_map]

theorem Predicate.exprs_map (p : Predicate γ) : (p.map f).exprs = p.exprs := by
  cases p <;> simp [map, exprs, StatementOf.exprs_map]

end Mapping

/-- The expressions of a condition are those of its first level and those of the levels below. -/
theorem Condition.exprs_of (p : Predicate Condition) :
    (Condition.of p).exprs = p.exprs ++ p.children.flatMap Condition.exprs := by
  rw [exprs, fold_of, Predicate.exprs_map, Predicate.children_map, List.flatMap_def]

end Listing

section Nesting

/-- Whether the statement is a selection. -/
def StatementOf.isSelection : StatementOf γ → Bool
  | .select _ => true
  | _ => false

/-- The statement that a level nests, if it does. -/
def Predicate.query? : Predicate γ → Option (StatementOf γ)
  | .inQuery _ query _ => some query
  | .existsQuery query _ => some query
  | _ => none

variable (f : γ → δ)

theorem StatementOf.isSelection_map (s : StatementOf γ) :
    (s.map f).isSelection = s.isSelection := by
  cases s <;> rfl

theorem Predicate.query?_map (p : Predicate γ) :
    (p.map f).query? = p.query?.map (StatementOf.map f) := by
  cases p <;> rfl

end Nesting

variable (g : Expr → Expr)

/-- The selection with other expressions. -/
def SelectBody.mapExprs (b : SelectBody γ) : SelectBody γ :=
  { b with fields := b.fields.map g, groupBy := b.groupBy.map g }

/-- The term with another expression. -/
def OrderTerm.mapExpr (term : OrderTerm) : OrderTerm := { term with expr := g term.expr }

/-- The assignment of another expression. -/
def Assignment.mapExpr (a : Assignment) : Assignment := { a with value := g a.value }

/-- The chain of selections with other expressions. -/
def SelectOf.mapExprs (s : SelectOf γ) : SelectOf γ :=
  { s with
    head := s.head.mapExprs g
    unions := s.unions.map fun (operator, body) => (operator, body.mapExprs g)
    orderBy := s.orderBy.map (OrderTerm.mapExpr g) }

/-- The new row with other expressions. -/
def InsertTemplate.mapExprs (s : InsertTemplate) : InsertTemplate :=
  { s with assignments := s.assignments.map (Assignment.mapExpr g), returning := s.returning.map g }

/-- The update with other expressions. -/
def UpdateOf.mapExprs (s : UpdateOf γ) : UpdateOf γ :=
  { s with assignments := s.assignments.map (Assignment.mapExpr g), returning := s.returning.map g }

/-- The removal with other expressions. -/
def DeleteOf.mapExprs (s : DeleteOf γ) : DeleteOf γ := { s with returning := s.returning.map g }

/-- The statement with other expressions, those of its conditions left alone. -/
def StatementOf.mapExprs : StatementOf γ → StatementOf γ
  | .select s => .select (s.mapExprs g)
  | .insert s => .insert (s.mapExprs g)
  | .update s => .update (s.mapExprs g)
  | .delete s => .delete (s.mapExprs g)
  | .truncate table => .truncate table

/-- The level with other expressions, those of the levels below left alone. -/
def Predicate.mapExprs : Predicate γ → Predicate γ
  | .compare op left right => .compare op (g left) (g right)
  | .and left right => .and left right
  | .or left right => .or left right
  | .not inner => .not inner
  | .between expr low high negated => .between (g expr) (g low) (g high) negated
  | .inList expr items negated => .inList (g expr) (items.map g) negated
  | .inQuery expr query negated => .inQuery (g expr) (query.mapExprs g) negated
  | .existsQuery query negated => .existsQuery (query.mapExprs g) negated
  | .isNull expr negated => .isNull (g expr) negated
  | .like kind expr pattern => .like kind (g expr) (g pattern)
  | .raw sql => .raw sql

/-- The condition with other expressions, at any depth. -/
def Condition.mapExprs : Condition → Condition := Condition.fold fun p => .of (p.mapExprs g)

/-- The statement with other expressions, at any depth. -/
def StatementOf.mapAllExprs (s : Statement) : Statement :=
  (s.map (Condition.mapExprs g)).mapExprs g

section Fields

@[simp] theorem SelectBody.top?_mapExprs (b : SelectBody γ) : (b.mapExprs g).top? = b.top? := rfl

@[simp] theorem SelectBody.fields_mapExprs (b : SelectBody γ) :
    (b.mapExprs g).fields = b.fields.map g := rfl

@[simp] theorem SelectBody.joins_mapExprs (b : SelectBody γ) : (b.mapExprs g).joins = b.joins := rfl

@[simp] theorem SelectBody.filter?_mapExprs (b : SelectBody γ) :
    (b.mapExprs g).filter? = b.filter? := rfl

@[simp] theorem SelectBody.groupBy_mapExprs (b : SelectBody γ) :
    (b.mapExprs g).groupBy = b.groupBy.map g := rfl

@[simp] theorem SelectBody.having?_mapExprs (b : SelectBody γ) :
    (b.mapExprs g).having? = b.having? := rfl

@[simp] theorem SelectOf.head_mapExprs (s : SelectOf γ) :
    (s.mapExprs g).head = s.head.mapExprs g := rfl

@[simp] theorem SelectOf.unions_mapExprs (s : SelectOf γ) :
    (s.mapExprs g).unions = s.unions.map fun (operator, body) => (operator, body.mapExprs g) := rfl

@[simp] theorem SelectOf.orderBy_mapExprs (s : SelectOf γ) :
    (s.mapExprs g).orderBy = s.orderBy.map (OrderTerm.mapExpr g) := rfl

@[simp] theorem InsertTemplate.assignments_mapExprs (s : InsertTemplate) :
    (s.mapExprs g).assignments = s.assignments.map (Assignment.mapExpr g) := rfl

@[simp] theorem InsertTemplate.returning_mapExprs (s : InsertTemplate) :
    (s.mapExprs g).returning = s.returning.map g := rfl

@[simp] theorem UpdateOf.assignments_mapExprs (s : UpdateOf γ) :
    (s.mapExprs g).assignments = s.assignments.map (Assignment.mapExpr g) := rfl

@[simp] theorem UpdateOf.filter?_mapExprs (s : UpdateOf γ) :
    (s.mapExprs g).filter? = s.filter? := rfl

@[simp] theorem UpdateOf.returning_mapExprs (s : UpdateOf γ) :
    (s.mapExprs g).returning = s.returning.map g := rfl

@[simp] theorem DeleteOf.joins_mapExprs (s : DeleteOf γ) : (s.mapExprs g).joins = s.joins := rfl

@[simp] theorem DeleteOf.filter?_mapExprs (s : DeleteOf γ) :
    (s.mapExprs g).filter? = s.filter? := rfl

@[simp] theorem DeleteOf.returning_mapExprs (s : DeleteOf γ) :
    (s.mapExprs g).returning = s.returning.map g := rfl

end Fields

section Words

variable (d : Dialect) (qualified : Bool)

@[simp] theorem SelectBody.opening_mapExprs (b : SelectBody γ) :
    (b.mapExprs g).opening d = b.opening d := rfl

@[simp] theorem SelectBody.sourceClause_mapExprs (b : SelectBody γ) :
    (b.mapExprs g).sourceClause d qualified = b.sourceClause d qualified := rfl

@[simp]
theorem SelectOf.closing_mapExprs (s : SelectOf γ) :
    (s.mapExprs g).closing d qualified = s.closing d qualified := by
  cases d with
  | sqlServer => rfl
  | postgres => cases hunions : s.unions <;> simp [closing, mapExprs, hunions, SelectBody.mapExprs]

@[simp]
theorem InsertTemplate.target_mapExprs (s : InsertTemplate) :
    (s.mapExprs g).target d = s.target d := by
  simp [target, mapExprs, Assignment.mapExpr, Function.comp_def]

@[simp] theorem UpdateOf.target_mapExprs (s : UpdateOf γ) :
    (s.mapExprs g).target d qualified = s.target d qualified := rfl

@[simp] theorem UpdateOf.sourceClause_mapExprs (s : UpdateOf γ) :
    (s.mapExprs g).sourceClause d qualified = s.sourceClause d qualified := rfl

@[simp] theorem DeleteOf.target_mapExprs (s : DeleteOf γ) :
    (s.mapExprs g).target d qualified = s.target d qualified := rfl

@[simp] theorem DeleteOf.sourceClause_mapExprs (s : DeleteOf γ) :
    (s.mapExprs g).sourceClause d qualified = s.sourceClause d qualified := rfl

end Words

section Independence

variable (f : γ → δ)

theorem SelectBody.mapExprs_map (b : SelectBody γ) :
    (b.mapExprs g).map f = (b.map f).mapExprs g := rfl

theorem SelectOf.mapExprs_map (s : SelectOf γ) : (s.mapExprs g).map f = (s.map f).mapExprs g := by
  simp [map, mapExprs, SelectBody.mapExprs_map, Function.comp_def]

theorem StatementOf.mapExprs_map (s : StatementOf γ) :
    (s.mapExprs g).map f = (s.map f).mapExprs g := by
  cases s with
  | select s => simp [map, mapExprs, SelectOf.mapExprs_map]
  | _ => rfl

theorem Predicate.mapExprs_map (p : Predicate γ) : (p.mapExprs g).map f = (p.map f).mapExprs g := by
  cases p <;> simp [map, mapExprs, StatementOf.mapExprs_map]

end Independence

section Listing

theorem SelectBody.exprs_mapExprs (b : SelectBody γ) : (b.mapExprs g).exprs = b.exprs.map g := by
  simp [exprs]

theorem StatementOf.exprs_mapExprs (s : StatementOf γ) : (s.mapExprs g).exprs = s.exprs.map g := by
  cases s with
  | select s =>
    simp [exprs, mapExprs, SelectOf.exprs, SelectOf.bodies, SelectBody.exprs_mapExprs,
      OrderTerm.mapExpr, List.map_flatMap, List.flatMap_map, Function.comp_def]
  | insert s =>
    simp [exprs, mapExprs, InsertTemplate.exprs, Assignment.mapExpr, Function.comp_def]
  | update s => simp [exprs, mapExprs, UpdateOf.exprs, Assignment.mapExpr, Function.comp_def]
  | delete s => rfl
  | truncate table => rfl

theorem StatementOf.conditions_mapExprs (s : StatementOf γ) :
    (s.mapExprs g).conditions = s.conditions := by
  cases s with
  | select s =>
    simp [conditions, mapExprs, SelectOf.conditions, SelectOf.bodies, SelectBody.conditions,
      List.flatMap_map]
  | _ => rfl

theorem Predicate.children_mapExprs (p : Predicate γ) : (p.mapExprs g).children = p.children := by
  cases p <;> simp [children, mapExprs, StatementOf.conditions_mapExprs]

variable {g} (hraw : ∀ sql, g (.raw sql) = .raw sql)

include hraw

theorem Predicate.exprs_mapExprs (p : Predicate γ) : (p.mapExprs g).exprs = p.exprs.map g := by
  cases p <;> simp [exprs, mapExprs, StatementOf.exprs_mapExprs, hraw]

theorem Condition.exprs_mapExprs (c : Condition) : (c.mapExprs g).exprs = c.exprs.map g := by
  induction c using Condition.induction with
  | h p ih =>
    have hchildren : p.children.flatMap (fun c => (c.mapExprs g).exprs) =
        p.children.flatMap fun c => c.exprs.map g := List.flatMap_congr ih
    rw [mapExprs, fold_of, ← mapExprs, exprs_of, Predicate.exprs_mapExprs hraw,
      Predicate.children_mapExprs, Predicate.exprs_map, Predicate.children_map, List.flatMap_map,
      hchildren, exprs_of, List.map_append, List.map_flatMap]

/-- The expressions of a template with other expressions, if text that is taken over as it is stays
what it is. -/
theorem StatementOf.allExprs_mapAllExprs (s : Statement) :
    (s.mapAllExprs g).allExprs = s.allExprs.map g := by
  have hconditions : (Condition.exprs ∘ Condition.mapExprs g) = fun c => c.exprs.map g :=
    funext (Condition.exprs_mapExprs hraw)
  rw [mapAllExprs, allExprs, exprs_mapExprs, conditions_mapExprs, exprs_map, conditions_map,
    List.flatMap_map, ← Function.comp_def, hconditions, allExprs, List.map_append,
    List.map_flatMap]

end Listing

section Aliases

variable (hasSubquery : γ → Bool)

@[simp]
theorem SelectBody.usesAliases_mapExprs (b : SelectBody γ) :
    (b.mapExprs g).usesAliases hasSubquery = b.usesAliases hasSubquery := rfl

@[simp]
theorem SelectOf.usesAliases_mapExprs (s : SelectOf γ) :
    (s.mapExprs g).usesAliases hasSubquery = s.usesAliases hasSubquery := by
  simp [usesAliases, bodies, mapExprs, Function.comp_def]

@[simp]
theorem UpdateOf.usesAliases_mapExprs (s : UpdateOf γ) :
    (s.mapExprs g).usesAliases hasSubquery = s.usesAliases hasSubquery := rfl

@[simp]
theorem DeleteOf.usesAliases_mapExprs (s : DeleteOf γ) :
    (s.mapExprs g).usesAliases hasSubquery = s.usesAliases hasSubquery := rfl

theorem Predicate.hasSubqueryWith_mapExprs (p : Predicate γ) :
    (p.mapExprs g).hasSubqueryWith hasSubquery = p.hasSubqueryWith hasSubquery := by
  cases p <;> rfl

end Aliases

end TypedSql
