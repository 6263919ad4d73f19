import TypedSql.Proofs.Skeleton
import TypedSql.Proofs.Traversal
/-!
# Replacing values

The values and the parameter slots of a template can be replaced by others. The text with
placeholders is not changed by that, whatever takes the place of what; the bindings are replaced in
their order. So a value has no way into the text of a statement whose values are bound.

## Main definitions

- `Expr.mapBindings`, `Condition.mapBindings`, `StatementOf.mapBindings`: the template with each
  value and each slot replaced, at any depth.
- `StatementOf.eraseValues`: the template without its values.

## Main statements

- `StatementOf.render_mapBindings`: replacing commutes with rendering.
- `StatementOf.compile_mapBindings`: the statement with parameters after replacing.
- `bound_text_independent_of_values`: statements that differ in values only have one text.
-/

namespace TypedSql

/-- The expression that a binding comes from. -/
def Binding.expr : Binding → Expr
  | fixed type v => .value type v
  | slot index type => .slot index type

/-- The piece with its binding replaced. -/
def Piece.mapBinding (φ : Binding → Binding) : Piece → Piece
  | text s => .text s
  | binding b => .binding (φ b)

namespace Fragment

variable (φ : Binding → Binding)

/-- The fragment with each binding replaced. -/
def mapBindings (f : Fragment) : Fragment := f.map (Piece.mapBinding φ)

@[simp]
theorem mapBindings_nil : mapBindings φ [] = [] := rfl

@[simp]
theorem mapBindings_ofText (s : String) : (ofText s).mapBindings φ = ofText s := rfl

@[simp]
theorem mapBindings_append (f g : Fragment) :
    mapBindings φ (f ++ g) = mapBindings φ f ++ mapBindings φ g := List.map_append

@[simp]
theorem mapBindings_parenthesised (f : Fragment) :
    f.parenthesised.mapBindings φ = (f.mapBindings φ).parenthesised := by
  simp [parenthesised]

theorem mapBindings_commaSeparated (fs : List Fragment) :
    (commaSeparated fs).mapBindings φ = commaSeparated (fs.map (mapBindings φ)) := by
  cases fs with
  | nil => rfl
  | cons first rest =>
    induction rest generalizing first with
    | nil => simp
    | cons next rest ih => simpa [commaSeparated_cons_cons] using ih next

theorem mapBindings_listAfter (opening : String) (fs : List Fragment) :
    (listAfter opening fs).mapBindings φ = listAfter opening (fs.map (mapBindings φ)) := by
  cases fs <;> simp [listAfter, mapBindings_commaSeparated]

theorem mapBindings_flatMap {α : Type} (f : α → Fragment) (as : List α) :
    mapBindings φ (as.flatMap f) = as.flatMap fun a => (f a).mapBindings φ := List.map_flatMap

theorem bindings_mapBindings (f : Fragment) : (f.mapBindings φ).bindings = f.bindings.map φ := by
  induction f with
  | nil => rfl
  | cons p f ih => cases p <;> simpa [mapBindings, Piece.mapBinding] using ih

/-- Placeholders know the position of a binding only. -/
theorem boundSqlFrom_mapBindings (style : PlaceholderStyle) (position : Nat) (f : Fragment) :
    (f.mapBindings φ).boundSqlFrom style position = f.boundSqlFrom style position := by
  induction f generalizing position with
  | nil => rfl
  | cons p f ih =>
    cases p with
    | text s => exact congrArg (s ++ ·) (ih position)
    | binding b => exact congrArg (style.placeholder position ++ ·) (ih (position + 1))

end Fragment

section Expressions

variable (φ : Binding → Binding)

mutual

/-- The expression with each value and each slot replaced. -/
def Expr.mapBindings : Expr → Expr
  | .column c => .column c
  | .value type v => (φ (.fixed type v)).expr
  | .slot index type => (φ (.slot index type)).expr
  | .call function args => .call function (Expr.mapBindingsList args)
  | .arithmetic op left right => .arithmetic op left.mapBindings right.mapBindings
  | .raw sql => .raw sql

/-- The expressions of a list with each value and each slot replaced. -/
def Expr.mapBindingsList : List Expr → List Expr
  | [] => []
  | e :: rest => e.mapBindings :: Expr.mapBindingsList rest

end

variable (d : Dialect) (qualified : Bool)

theorem Binding.render_expr (b : Binding) : b.expr.render d qualified = [.binding b] := by
  cases b <;> rfl

theorem SqlFunction.renderCall_mapBindings (function : SqlFunction) (args : List Fragment) :
    function.renderCall d (args.map (Fragment.mapBindings φ)) =
      (function.renderCall d args).mapBindings φ := by
  cases function <;> simp [renderCall, Fragment.mapBindings_commaSeparated]

mutual

theorem Expr.render_mapBindings : ∀ e : Expr,
    (e.mapBindings φ).render d qualified = (e.render d qualified).mapBindings φ
  | .column c => rfl
  | .value type v => by rw [mapBindings, Binding.render_expr]; rfl
  | .slot index type => by rw [mapBindings, Binding.render_expr]; rfl
  | .call function args => by
    rw [mapBindings, render, render, Expr.renderList_mapBindings args,
      SqlFunction.renderCall_mapBindings]
  | .arithmetic op left right => by
    simp [mapBindings, render, Expr.render_mapBindings left, Expr.render_mapBindings right]
  | .raw sql => rfl

theorem Expr.renderList_mapBindings : ∀ es : List Expr,
    Expr.renderList d qualified (Expr.mapBindingsList φ es) =
      (Expr.renderList d qualified es).map (Fragment.mapBindings φ)
  | [] => rfl
  | e :: rest => by
    simp [mapBindingsList, renderList, Expr.render_mapBindings e, Expr.renderList_mapBindings rest]

end

/-- The fragments of replaced expressions, as a function. -/
theorem Expr.render_comp_mapBindings :
    Expr.render d qualified ∘ Expr.mapBindings φ =
      Fragment.mapBindings φ ∘ Expr.render d qualified :=
  funext (Expr.render_mapBindings φ d qualified)

theorem Expr.renderCommaSeparated_mapBindings (es : List Expr) :
    Expr.renderCommaSeparated d qualified (es.map (Expr.mapBindings φ)) =
      (Expr.renderCommaSeparated d qualified es).mapBindings φ := by
  simp [renderCommaSeparated, Fragment.mapBindings_commaSeparated, render_comp_mapBindings]

end Expressions

/-- The rendered condition with each binding replaced. -/
def RenderedCondition.mapBindings (φ : Binding → Binding) (c : RenderedCondition) :
    RenderedCondition where
  hasSubquery := c.hasSubquery
  fragment qualified := (c.fragment qualified).mapBindings φ

@[simp]
theorem RenderedCondition.hasSubquery_comp_mapBindings (φ : Binding → Binding) :
    hasSubquery ∘ mapBindings φ = hasSubquery := rfl

section Clauses

variable (φ : Binding → Binding) (d : Dialect) (qualified : Bool)

theorem Fragment.mapBindings_connected (connective : String) (left right : Fragment) :
    (Fragment.connected connective left right).mapBindings φ =
      Fragment.connected connective (left.mapBindings φ) (right.mapBindings φ) := by
  simp [connected]

namespace RenderedCondition

theorem and_mapBindings (left right : RenderedCondition) :
    (left.mapBindings φ).and (right.mapBindings φ) = (left.and right).mapBindings φ := by
  simp [and, mapBindings, Fragment.mapBindings_connected]

theorem all?_mapBindings (cs : List RenderedCondition) :
    all? (cs.map (mapBindings φ)) = (all? cs).map (mapBindings φ) := by
  cases cs with
  | nil => rfl
  | cons c rest =>
    induction rest generalizing c with
    | nil => rfl
    | cons next rest ih => simpa [all?, and_mapBindings] using ih (c.and next)

theorem clause_mapBindings (keyword : String) (c? : Option RenderedCondition) :
    clause keyword qualified (c?.map (mapBindings φ)) =
      (clause keyword qualified c?).mapBindings φ := by
  cases c? <;> simp [clause, mapBindings]

end RenderedCondition

theorem PatternMatch.render_mapBindings (kind : PatternMatch) (expr pattern : Fragment) :
    kind.render d (expr.mapBindings φ) (pattern.mapBindings φ) =
      (kind.render d expr pattern).mapBindings φ := by
  obtain ⟨ignoresCase, negated⟩ := kind
  cases d <;> cases ignoresCase <;> simp [render]

theorem renderJoins_mapBindings (joins : List (Join RenderedCondition)) :
    renderJoins d qualified (joins.map (Join.map (RenderedCondition.mapBindings φ))) =
      (renderJoins d qualified joins).mapBindings φ := by
  rw [renderJoins, renderJoins, Fragment.mapBindings_flatMap, List.flatMap_map]
  rfl

namespace SelectBody

theorem render_mapBindings (b : SelectBody RenderedCondition) :
    ((b.map (RenderedCondition.mapBindings φ)).mapExprs (Expr.mapBindings φ)).render d qualified =
      (b.render d qualified).mapBindings φ := by
  simp [render, map_joins, map_filter?, map_having?, Expr.renderCommaSeparated_mapBindings,
    renderJoins_mapBindings, RenderedCondition.clause_mapBindings, Fragment.mapBindings_listAfter,
    Expr.render_comp_mapBindings]

theorem renderInChain_mapBindings (b : SelectBody RenderedCondition) :
    ((b.map (RenderedCondition.mapBindings φ)).mapExprs (Expr.mapBindings φ)).renderInChain d
        qualified = (b.renderInChain d qualified).mapBindings φ := by
  cases d <;> cases htop : b.top? <;> simp [renderInChain, htop, render_mapBindings]

end SelectBody

theorem OrderTerm.render_mapBindings (term : OrderTerm) :
    (term.mapExpr (Expr.mapBindings φ)).render d qualified =
      (term.render d qualified).mapBindings φ := by
  obtain ⟨expr, order⟩ := term
  cases order <;> simp [render, mapExpr, Expr.render_mapBindings]

theorem renderOutputField_mapBindings (rows : String) (e : Expr) :
    renderOutputField rows (e.mapBindings φ) = (renderOutputField rows e).mapBindings φ := by
  have hother (b : Binding) : renderOutputField rows b.expr = [.binding b] := by cases b <;> rfl
  -- only a column is written in another way here than elsewhere, and no binding becomes one
  cases e with
  | column c => rfl
  | value type v => exact hother _
  | slot index type => exact hother _
  | call function args => exact Expr.render_mapBindings φ .sqlServer false (.call function args)
  | arithmetic op left right =>
    exact Expr.render_mapBindings φ .sqlServer false (.arithmetic op left right)
  | raw sql => rfl

theorem outputClause_mapBindings (rows : String) (fields : List Expr) :
    outputClause rows (fields.map (Expr.mapBindings φ)) =
      (outputClause rows fields).mapBindings φ := by
  have hfield : renderOutputField rows ∘ Expr.mapBindings φ =
      Fragment.mapBindings φ ∘ renderOutputField rows :=
    funext (renderOutputField_mapBindings φ rows)
  simp [outputClause, Fragment.mapBindings_listAfter, hfield]

theorem returningClause_mapBindings (fields : List Expr) :
    returningClause qualified (fields.map (Expr.mapBindings φ)) =
      (returningClause qualified fields).mapBindings φ := by
  simp [returningClause, Fragment.mapBindings_listAfter, Expr.render_comp_mapBindings]

theorem renderAssignments_mapBindings (assignments : List Assignment) :
    renderAssignments d qualified (assignments.map (Assignment.mapExpr (Expr.mapBindings φ))) =
      (renderAssignments d qualified assignments).mapBindings φ := by
  simp [renderAssignments, Fragment.mapBindings_commaSeparated, Assignment.mapExpr,
    Expr.render_mapBindings, Function.comp_def]

end Clauses

section Statements

variable (φ : Binding → Binding) (d : Dialect)

theorem SelectOf.render_mapBindings (outerQualified : Bool) (s : SelectOf RenderedCondition) :
    ((s.map (RenderedCondition.mapBindings φ)).mapExprs (Expr.mapBindings φ)).render d
        outerQualified = (s.render d outerQualified).mapBindings φ := by
  have horder (qualified : Bool) :
      OrderTerm.render d qualified ∘ OrderTerm.mapExpr (Expr.mapBindings φ) =
        Fragment.mapBindings φ ∘ OrderTerm.render d qualified :=
    funext (OrderTerm.render_mapBindings φ d qualified)
  simp only [render, renderParts, usesAliases_mapExprs, usesAliases_map,
    RenderedCondition.hasSubquery_comp_mapBindings]
  cases hunions : s.unions with
  | nil =>
    simp [map_head, map_unions, hunions, SelectBody.render_mapBindings, horder,
      Fragment.mapBindings_listAfter]
  | cons union rest =>
    simp [map_head, map_unions, hunions, SelectBody.renderInChain_mapBindings, horder,
      Fragment.mapBindings_listAfter, Fragment.mapBindings_flatMap, List.flatMap_map]

theorem InsertTemplate.render_mapBindings (s : InsertTemplate) :
    (s.mapExprs (Expr.mapBindings φ)).render d = (s.render d).mapBindings φ := by
  have hvalues :
      (s.assignments.map (Assignment.mapExpr (Expr.mapBindings φ))).map Assignment.value =
      (s.assignments.map Assignment.value).map (Expr.mapBindings φ) := by
    simp [Assignment.mapExpr, Function.comp_def]
  cases d <;>
    simp only [render, target_mapExprs, assignments_mapExprs, returning_mapExprs, hvalues,
      Expr.renderCommaSeparated_mapBindings, outputClause_mapBindings, returningClause_mapBindings,
      Fragment.mapBindings_append, Fragment.mapBindings_ofText, Fragment.mapBindings_parenthesised]

theorem UpdateOf.render_mapBindings (s : UpdateOf RenderedCondition) :
    ((s.map (RenderedCondition.mapBindings φ)).mapExprs (Expr.mapBindings φ)).render d =
      (s.render d).mapBindings φ := by
  cases d <;>
    simp [render, usesAliases_map, map_filter?, renderAssignments_mapBindings,
      RenderedCondition.clause_mapBindings, outputClause_mapBindings, returningClause_mapBindings]

theorem DeleteOf.render_mapBindings (s : DeleteOf RenderedCondition) :
    ((s.map (RenderedCondition.mapBindings φ)).mapExprs (Expr.mapBindings φ)).render d =
      (s.render d).mapBindings φ := by
  cases d with
  | sqlServer =>
    cases hqualified : s.usesAliases RenderedCondition.hasSubquery <;>
      simp [render, usesAliases_map, hqualified, map_joins, map_filter?, outputClause_mapBindings,
        renderJoins_mapBindings, RenderedCondition.clause_mapBindings]
  | postgres =>
    -- the conditions of the joins are merged into the filter
    have hconditions : (s.joins.map (Join.map (RenderedCondition.mapBindings φ))).map Join.on ++
        (s.filter?.map (RenderedCondition.mapBindings φ)).toList =
          (s.joins.map Join.on ++ s.filter?.toList).map (RenderedCondition.mapBindings φ) := by
      cases hfilter : s.filter? <;> simp [Function.comp_def, Join.map_on]
    simp only [render, usesAliases_mapExprs, usesAliases_map,
      RenderedCondition.hasSubquery_comp_mapBindings, target_mapExprs, sourceClause_mapExprs,
      joins_mapExprs, filter?_mapExprs, returning_mapExprs, map_joins, map_filter?, hconditions,
      RenderedCondition.all?_mapBindings, RenderedCondition.clause_mapBindings]
    simp [returningClause_mapBindings]

theorem StatementOf.renderShape_mapBindings (outerQualified : Bool)
    (s : StatementOf RenderedCondition) :
    ((s.map (RenderedCondition.mapBindings φ)).mapExprs (Expr.mapBindings φ)).renderShape d
        outerQualified = (s.renderShape d outerQualified).mapBindings φ := by
  cases s with
  | select s => exact SelectOf.render_mapBindings φ d outerQualified s
  | insert s => exact InsertTemplate.render_mapBindings φ d s
  | update s => exact UpdateOf.render_mapBindings φ d s
  | delete s => exact DeleteOf.render_mapBindings φ d s
  | truncate table => rfl

theorem Predicate.fragment_mapBindings (qualified : Bool) (p : Predicate RenderedCondition) :
    ((p.map (RenderedCondition.mapBindings φ)).mapExprs (Expr.mapBindings φ)).fragment d qualified =
      (p.fragment d qualified).mapBindings φ := by
  cases p with
  | compare op left right => simp [map, mapExprs, fragment, Expr.render_mapBindings]
  | and left right => exact (Fragment.mapBindings_connected φ _ _ _).symm
  | or left right => exact (Fragment.mapBindings_connected φ _ _ _).symm
  | not inner =>
    simp [map, mapExprs, fragment, RenderedCondition.mapBindings]
  | between expr low high negated => simp [map, mapExprs, fragment, Expr.render_mapBindings]
  | inList expr items negated =>
    simp [map, mapExprs, fragment, Expr.render_mapBindings, Expr.renderCommaSeparated_mapBindings]
  | inQuery expr query negated =>
    simp [map, mapExprs, fragment, Expr.render_mapBindings, StatementOf.renderShape_mapBindings]
  | existsQuery query negated =>
    simp [map, mapExprs, fragment, StatementOf.renderShape_mapBindings]
  | isNull expr negated => simp [map, mapExprs, fragment, Expr.render_mapBindings]
  | like kind expr pattern =>
    simp [map, mapExprs, fragment, Expr.render_mapBindings, PatternMatch.render_mapBindings]
  | raw sql => rfl

/-- The condition with each value and each slot replaced, at any depth. -/
def Condition.mapBindings : Condition → Condition := Condition.mapExprs (Expr.mapBindings φ)

/-- The statement with each value and each slot replaced, at any depth. -/
def StatementOf.mapBindings (s : Statement) : Statement := s.mapAllExprs (Expr.mapBindings φ)

/-- Replacing in a condition replaces in its fragments. Both sides are the fold that replaces at
each level and renders it. -/
theorem Condition.rendered_mapBindings (c : Condition) :
    (c.mapBindings φ).rendered d = (c.rendered d).mapBindings φ := by
  let step (p : Predicate RenderedCondition) : RenderedCondition :=
    { hasSubquery := p.hasSubqueryWith RenderedCondition.hasSubquery
      fragment := fun qualified => (p.mapExprs (Expr.mapBindings φ)).fragment d qualified }
  have hleft : (c.mapBindings φ).rendered d = c.fold step := by
    refine Condition.fold_fusion (Condition.rendered d) (fun p => ?_) c
    rw [Condition.rendered, Condition.fold_of, Predicate.mapExprs_map,
      Predicate.hasSubqueryWith_mapExprs]
  have hright : (c.rendered d).mapBindings φ = c.fold step := by
    refine Condition.fold_fusion (RenderedCondition.mapBindings φ) (fun p => ?_) c
    simp only [step, Predicate.hasSubqueryWith_map,
      RenderedCondition.hasSubquery_comp_mapBindings, Predicate.fragment_mapBindings]
    rfl
  rw [hleft, hright]

theorem StatementOf.render_mapBindings (s : Statement) :
    (s.mapBindings φ).render d = (s.render d).mapBindings φ := by
  have hconditions : Condition.rendered d ∘ Condition.mapBindings φ =
      RenderedCondition.mapBindings φ ∘ Condition.rendered d :=
    funext (Condition.rendered_mapBindings φ d)
  calc (s.mapBindings φ).render d
    _ = ((s.map (Condition.rendered d ∘ Condition.mapBindings φ)).mapExprs
          (Expr.mapBindings φ)).renderShape d false := by
      rw [render, mapBindings, mapAllExprs, mapExprs_map, map_map]
      rfl
    _ = (s.render d).mapBindings φ := by
      rw [hconditions, ← map_map, renderShape_mapBindings]
      rfl

/-- Replacing values and slots keeps the text with placeholders and replaces the bindings. -/
theorem StatementOf.compile_mapBindings (s : Statement) :
    (s.mapBindings φ).compile d .bind =
      { s.compile d .bind with bindings := (s.compile d .bind).bindings.map φ } := by
  simp only [compile_bind, render_mapBindings, Fragment.boundSql,
    Fragment.boundSqlFrom_mapBindings, Fragment.bindings_mapBindings]

end Statements

section Values

/-- The binding without its value, if it has one. -/
def Binding.erased : Binding → Binding
  | fixed type _ => .fixed type .null
  | slot index type => .slot index type

/-- The statement without the values in it: what is left are their declared types. -/
def StatementOf.eraseValues (s : Statement) : Statement := s.mapBindings Binding.erased

/-- Bindings that are both fixed with one declared type, or the same slot. -/
inductive Binding.SameKind : Binding → Binding → Prop where
  | fixed (type : SqlType) (v w : Value) : SameKind (.fixed type v) (.fixed type w)
  | slot (index : Nat) (type : SqlType) : SameKind (.slot index type) (.slot index type)

theorem Binding.sameKind_of_erased_eq {b c : Binding} (h : b.erased = c.erased) : b.SameKind c := by
  cases b <;> cases c <;> cases h <;> constructor

/-- Statements that are the same but for the values in them have one text with placeholders, and
bindings that agree in everything but the values. -/
theorem bound_text_independent_of_values (d : Dialect) {s t : Statement}
    (h : s.eraseValues = t.eraseValues) :
    (s.compile d .bind).sql = (t.compile d .bind).sql ∧
      List.Forall₂ Binding.SameKind (s.compile d .bind).bindings (t.compile d .bind).bindings := by
  have hcompiled : s.eraseValues.compile d .bind = t.eraseValues.compile d .bind := by rw [h]
  simp only [StatementOf.eraseValues, StatementOf.compile_mapBindings,
    Compiled.mk.injEq] at hcompiled
  obtain ⟨hsql, -, hbindings⟩ := hcompiled
  refine ⟨hsql, ?_⟩
  have herased : List.Forall₂ Eq ((s.compile d .bind).bindings.map Binding.erased)
      ((t.compile d .bind).bindings.map Binding.erased) := by
    rw [List.forall₂_eq_eq_eq, hbindings]
  rw [List.forall₂_map_left_iff, List.forall₂_map_right_iff] at herased
  exact herased.imp fun _ _ => Binding.sameKind_of_erased_eq

/-- A selection of a value, of rows for which a nested selection of the same value finds any. -/
def selectionWithValue (v : Value) : Statement :=
  let nested : Statement := .select { head := { fields := [.value .text v] } }
  .select
    { head :=
        { fields := [.value .text v, .slot 0 .int]
          filter? := some (.of (.existsQuery nested false)) } }

theorem eraseValues_selectionWithValue (v : Value) :
    (selectionWithValue v).eraseValues = selectionWithValue .null := rfl

/-- A text that would end its literal does not reach the statement any more than a harmless one. -/
theorem bound_text_of_hostile_value :
    (selectionWithValue (.text "Ada")).eraseValues =
        (selectionWithValue (.text "'; DROP TABLE users; --")).eraseValues ∧
      ((selectionWithValue (.text "Ada")).compile .postgres .bind).sql =
        ((selectionWithValue (.text "'; DROP TABLE users; --")).compile .postgres .bind).sql := by
  have herased : (selectionWithValue (.text "Ada")).eraseValues =
      (selectionWithValue (.text "'; DROP TABLE users; --")).eraseValues := by
    rw [eraseValues_selectionWithValue, eraseValues_selectionWithValue]
  exact ⟨herased, (bound_text_independent_of_values .postgres herased).1⟩

end Values

end TypedSql
