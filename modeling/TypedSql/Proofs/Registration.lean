import TypedSql.Proofs.Leaves
import TypedSql.Proofs.Resolution
import TypedSql.Proofs.Skeleton
/-!
# No value is lost

Rendering a statement registers each of its values and slots once. PostgreSQL has its clauses in
the order of the template. SQL Server returns rows in front of a condition, so there the bindings
are the leaves in another order, but only where a statement that changes rows takes part.

## Main statements

- `SelectOf.bindings_render`, `StatementOf.bindings_renderShape_perm`: the walks of the dialects
  over one statement.
- `Condition.bindings_render_perm`, `Condition.bindings_render_eq`: the walks over nested
  statements.
- `dialects_register_leaves`: both dialects register the leaves of a statement, and nothing else.

## Design notes

A nested statement decides by itself whether its columns are qualified. This has no influence on
the bindings, so the lemmas for one level say that there is a way to name columns for which they
hold, and the lemmas for all levels hold for each.
-/

namespace TypedSql

/-- The bindings of a rendered condition, given whether columns are qualified. -/
def RenderedCondition.bindings (qualified : Bool) (c : RenderedCondition) : List Binding :=
  (c.fragment qualified).bindings

section Clauses

variable (d : Dialect) (qualified : Bool)

namespace RenderedCondition

@[simp]
theorem bindings_clause (keyword : String) (c? : Option RenderedCondition) :
    (clause keyword qualified c?).bindings = c?.toList.flatMap (bindings qualified) := by
  cases c? <;> simp [clause, bindings]

theorem bindings_and (left right : RenderedCondition) :
    (left.and right).bindings qualified = left.bindings qualified ++ right.bindings qualified := by
  simp [and, bindings]

theorem bindings_all? (cs : List RenderedCondition) :
    (all? cs).toList.flatMap (bindings qualified) = cs.flatMap (bindings qualified) := by
  cases cs with
  | nil => rfl
  | cons c rest =>
    -- the conjunction is nested to the left, so its first condition collects the others
    induction rest generalizing c with
    | nil => rfl
    | cons next rest ih =>
      have hnext := ih (c.and next)
      simp only [all?, List.foldl_cons, List.flatMap_cons, bindings_and] at hnext ⊢
      rw [hnext, List.append_assoc]

end RenderedCondition

@[simp]
theorem bindings_renderJoins (joins : List (Join RenderedCondition)) :
    (renderJoins d qualified joins).bindings =
      (joins.map Join.on).flatMap (RenderedCondition.bindings qualified) := by
  rw [renderJoins, Fragment.bindings_flatMap, List.flatMap_map]
  simp [RenderedCondition.bindings]

@[simp]
theorem PatternMatch.bindings_render (kind : PatternMatch) (expr pattern : Fragment) :
    (kind.render d expr pattern).bindings = expr.bindings ++ pattern.bindings := by
  obtain ⟨ignoresCase, negated⟩ := kind
  cases d <;> cases ignoresCase <;> simp [render]

theorem SelectBody.bindings_render (b : SelectBody RenderedCondition) :
    (b.render d qualified).bindings = b.leavesWith (RenderedCondition.bindings qualified) := by
  simp only [render, leavesWith, Fragment.bindings_append, Fragment.bindings_ofText,
    Expr.bindings_renderCommaSeparated, bindings_renderJoins, RenderedCondition.bindings_clause,
    Fragment.bindings_listAfter, Expr.flatMap_bindings_render, List.nil_append, List.append_nil]

theorem SelectBody.bindings_renderInChain (b : SelectBody RenderedCondition) :
    (b.renderInChain d qualified).bindings =
      b.leavesWith (RenderedCondition.bindings qualified) := by
  cases d <;> cases htop : b.top? <;> simp [renderInChain, htop, bindings_render]

theorem OrderTerm.bindings_render (term : OrderTerm) :
    (term.render d qualified).bindings = term.expr.leaves := by
  obtain ⟨expr, order⟩ := term
  cases order <;> simp [render, Expr.bindings_render]

theorem bindings_renderOutputField (rows : String) (e : Expr) :
    (renderOutputField rows e).bindings = e.leaves := by
  cases e with
  | column c => rfl
  | _ => exact Expr.bindings_render .sqlServer false _

@[simp]
theorem bindings_outputClause (rows : String) (fields : List Expr) :
    (outputClause rows fields).bindings = fields.flatMap Expr.leaves := by
  simp [outputClause, List.flatMap_map, bindings_renderOutputField]

@[simp]
theorem bindings_returningClause (fields : List Expr) :
    (returningClause qualified fields).bindings = fields.flatMap Expr.leaves := by
  rw [returningClause, Fragment.bindings_listAfter, Expr.flatMap_bindings_render]

@[simp]
theorem bindings_renderAssignments (assignments : List Assignment) :
    (renderAssignments d qualified assignments).bindings = leavesOfAssignments assignments := by
  simp [renderAssignments, leavesOfAssignments, List.flatMap_map, Expr.bindings_render]

end Clauses

section Statements

variable (d : Dialect)

/-- A chain of selections registers its leaves in order, in either dialect. -/
theorem SelectOf.bindings_render (outerQualified : Bool) (s : SelectOf RenderedCondition) :
    ∃ qualified, (s.render d outerQualified).bindings =
      s.leavesWith (RenderedCondition.bindings qualified) := by
  refine ⟨outerQualified || s.usesAliases RenderedCondition.hasSubquery, ?_⟩
  have horder (qualified : Bool) :
      (s.orderBy.map (OrderTerm.render d qualified)).flatMap Fragment.bindings =
        s.orderBy.flatMap fun term => term.expr.leaves := by
    simp [List.flatMap_map, OrderTerm.bindings_render]
  cases hunions : s.unions with
  | nil =>
    simp [render, renderParts, leavesWith, bodies, hunions, SelectBody.bindings_render, horder]
  | cons union rest =>
    simp [render, renderParts, leavesWith, bodies, hunions, SelectBody.bindings_renderInChain,
      horder, Fragment.bindings_flatMap, List.flatMap_map]

theorem InsertTemplate.bindings_render (s : InsertTemplate) :
    (s.render .postgres).bindings = s.leaves := by
  simp [render, leaves, leavesOfAssignments, List.flatMap_map]

/-- SQL Server returns the fields of a new row in front of its values. -/
theorem InsertTemplate.bindings_render_perm (s : InsertTemplate) :
    ((s.render d).bindings).Perm s.leaves := by
  cases d with
  | sqlServer =>
    simp [render, leaves, leavesOfAssignments, List.flatMap_map]
    exact List.perm_append_comm
  | postgres => rw [bindings_render]

theorem UpdateOf.bindings_render (s : UpdateOf RenderedCondition) :
    (s.render .postgres).bindings = s.leavesWith
      (RenderedCondition.bindings (s.usesAliases RenderedCondition.hasSubquery)) := by
  simp [render, leavesWith]

/-- SQL Server returns fields in front of the condition. -/
theorem UpdateOf.bindings_render_perm (s : UpdateOf RenderedCondition) :
    ((s.render d).bindings).Perm (s.leavesWith
      (RenderedCondition.bindings (s.usesAliases RenderedCondition.hasSubquery))) := by
  cases d with
  | sqlServer =>
    simp [render, leavesWith]
    exact List.perm_append_comm.append_left _
  | postgres => rw [bindings_render]

theorem DeleteOf.bindings_render (s : DeleteOf RenderedCondition) :
    (s.render .postgres).bindings = s.leavesWith
      (RenderedCondition.bindings (s.usesAliases RenderedCondition.hasSubquery)) := by
  simp [render, leavesWith, RenderedCondition.bindings_all?]

/-- SQL Server returns fields in front of the joins. Where it leaves the joins out, there are
none. -/
theorem DeleteOf.bindings_render_perm (s : DeleteOf RenderedCondition) :
    ((s.render d).bindings).Perm (s.leavesWith
      (RenderedCondition.bindings (s.usesAliases RenderedCondition.hasSubquery))) := by
  cases d with
  | sqlServer =>
    cases hqualified : s.usesAliases RenderedCondition.hasSubquery with
    | true =>
      simp [render, leavesWith, hqualified]
      refine List.perm_append_comm.trans ?_
      rw [List.append_assoc]
    | false =>
      have hjoins : s.joins = [] := by
        simp only [usesAliases, Bool.or_eq_false_iff, Bool.not_eq_false', List.isEmpty_iff]
          at hqualified
        exact hqualified.1
      simp [render, leavesWith, hqualified, hjoins]
      exact List.perm_append_comm
  | postgres => rw [bindings_render]

/-- A statement whose conditions are rendered registers its leaves, in some order. -/
theorem StatementOf.bindings_renderShape_perm (outerQualified : Bool)
    (s : StatementOf RenderedCondition) :
    ∃ qualified, ((s.renderShape d outerQualified).bindings).Perm
      (s.leavesWith (RenderedCondition.bindings qualified)) := by
  cases s with
  | select s =>
    obtain ⟨qualified, h⟩ := s.bindings_render d outerQualified
    exact ⟨qualified, .of_eq h⟩
  | insert s => exact ⟨outerQualified, s.bindings_render_perm d⟩
  | update s => exact ⟨_, s.bindings_render_perm d⟩
  | delete s => exact ⟨_, s.bindings_render_perm d⟩
  | truncate table => exact ⟨outerQualified, .refl _⟩

/-- PostgreSQL registers the leaves in order, and so does SQL Server for a selection. -/
theorem StatementOf.bindings_renderShape_eq (outerQualified : Bool)
    {s : StatementOf RenderedCondition} (h : d = .postgres ∨ s.isSelection) :
    ∃ qualified, (s.renderShape d outerQualified).bindings =
      s.leavesWith (RenderedCondition.bindings qualified) := by
  cases s with
  | select s => exact s.bindings_render d outerQualified
  | insert s =>
    obtain rfl : d = .postgres := by simpa [isSelection] using h
    exact ⟨outerQualified, s.bindings_render⟩
  | update s =>
    obtain rfl : d = .postgres := by simpa [isSelection] using h
    exact ⟨_, s.bindings_render⟩
  | delete s =>
    obtain rfl : d = .postgres := by simpa [isSelection] using h
    exact ⟨_, s.bindings_render⟩
  | truncate table => exact ⟨outerQualified, rfl⟩

theorem Predicate.bindings_fragment_perm (qualified : Bool) (p : Predicate RenderedCondition) :
    ∃ inner, ((p.fragment d qualified).bindings).Perm
      (p.leavesWith (RenderedCondition.bindings inner)) := by
  cases p with
  | inQuery expr query negated =>
    obtain ⟨inner, h⟩ := query.bindings_renderShape_perm d qualified
    refine ⟨inner, ?_⟩
    simpa [fragment, leavesWith, Expr.bindings_render] using h.append_left expr.leaves
  | existsQuery query negated =>
    obtain ⟨inner, h⟩ := query.bindings_renderShape_perm d qualified
    refine ⟨inner, ?_⟩
    simpa [fragment, leavesWith] using h
  | _ =>
    refine ⟨qualified, .of_eq ?_⟩
    simp [fragment, leavesWith, Expr.bindings_render, RenderedCondition.bindings]

theorem Predicate.bindings_fragment_eq (qualified : Bool) {p : Predicate RenderedCondition}
    (h : d = .postgres ∨ p.query?.all StatementOf.isSelection) :
    ∃ inner, (p.fragment d qualified).bindings =
      p.leavesWith (RenderedCondition.bindings inner) := by
  cases p with
  | inQuery expr query negated =>
    obtain ⟨inner, hquery⟩ := StatementOf.bindings_renderShape_eq d qualified h
    refine ⟨inner, ?_⟩
    simp [fragment, leavesWith, Expr.bindings_render, hquery]
  | existsQuery query negated =>
    obtain ⟨inner, hquery⟩ := StatementOf.bindings_renderShape_eq d qualified h
    refine ⟨inner, ?_⟩
    simp [fragment, leavesWith, hquery]
  | _ =>
    refine ⟨qualified, ?_⟩
    simp [fragment, leavesWith, Expr.bindings_render, RenderedCondition.bindings]

/-- Rendering a condition registers its leaves, in some order. -/
theorem Condition.bindings_render_perm (c : Condition) :
    ∀ qualified, ((c.render d qualified).bindings).Perm c.leaves := by
  induction c using Condition.induction with
  | h p ih =>
    intro qualified
    obtain ⟨inner, hlevel⟩ := (p.map (Condition.rendered d)).bindings_fragment_perm d qualified
    rw [Predicate.leavesWith_map] at hlevel
    rw [render_of, leaves_of]
    exact hlevel.trans (Predicate.leavesWith_perm fun c hc => ih c hc inner)

/-- Rendering a condition registers its leaves in order, in PostgreSQL always and in SQL Server if
only selections are nested in it. -/
theorem Condition.bindings_render_eq (c : Condition) :
    (d = .postgres ∨ c.nestsSelectionsOnly) →
      ∀ qualified, (c.render d qualified).bindings = c.leaves := by
  induction c using Condition.induction with
  | h p ih =>
    intro h qualified
    rw [nestsSelectionsOnly_of, Bool.and_eq_true, List.all_eq_true] at h
    have hquery : d = .postgres ∨
        (p.map (Condition.rendered d)).query?.all StatementOf.isSelection := by
      refine h.imp_right fun h => ?_
      rw [Predicate.query?_map, Option.all_map]
      convert h.1 using 2
      funext s
      exact StatementOf.isSelection_map _ s
    obtain ⟨inner, hlevel⟩ := Predicate.bindings_fragment_eq d qualified hquery
    rw [Predicate.leavesWith_map] at hlevel
    rw [render_of, leaves_of, hlevel]
    exact Predicate.leavesWith_congr fun c hc => ih c hc (h.imp_right fun h => h.2 c hc) inner

theorem StatementOf.bindings_render_perm (s : Statement) :
    ((s.render d).bindings).Perm s.leaves := by
  obtain ⟨qualified, h⟩ := (s.map (Condition.rendered d)).bindings_renderShape_perm d false
  rw [leavesWith_map] at h
  exact h.trans (leavesWith_perm fun c _ => c.bindings_render_perm d qualified)

theorem StatementOf.bindings_render_eq {s : Statement}
    (h : d = .postgres ∨ s.isSelection ∧ s.nestsSelectionsOnly) :
    (s.render d).bindings = s.leaves := by
  have hshape : d = .postgres ∨ (s.map (Condition.rendered d)).isSelection := by
    rw [isSelection_map]
    exact h.imp_right And.left
  obtain ⟨qualified, hlevel⟩ := bindings_renderShape_eq d false hshape
  rw [leavesWith_map] at hlevel
  refine hlevel.trans (leavesWith_congr fun c hc => c.bindings_render_eq d ?_ qualified)
  refine h.imp_right fun h => ?_
  exact List.all_eq_true.1 h.2 c hc

/-- Both dialects register the values and the slots of a statement, at any depth, each as often as
it occurs, and nothing else. So the bindings of one are a permutation of those of the other: either
both can be sent or neither, and their parameters carry the same. For a selection in which only
selections are nested, they do so in the same order. -/
theorem dialects_register_leaves (s : Statement) :
    (∀ d, ((s.compile d .bind).bindings).Perm s.leaves) ∧
    ((s.compile .sqlServer .bind).bindings).Perm (s.compile .postgres .bind).bindings ∧
    (∀ (d d' : Dialect) (slots : List Value) (ps : List Parameter),
      (s.compile d .bind).parameters slots = .ok ps →
        ∃ ps', (s.compile d' .bind).parameters slots = .ok ps' ∧
          (ps.map Parameter.content).Perm (ps'.map Parameter.content) ∧
          (s.isSelection ∧ s.nestsSelectionsOnly →
            ps.map Parameter.content = ps'.map Parameter.content)) ∧
    (s.isSelection ∧ s.nestsSelectionsOnly →
      (s.compile .sqlServer .bind).bindings = (s.compile .postgres .bind).bindings) := by
  have hleaves (d : Dialect) : ((s.compile d .bind).bindings).Perm s.leaves := by
    rw [StatementOf.compile_bind]
    exact s.bindings_render_perm d
  have hperm (d d' : Dialect) :
      ((s.compile d .bind).bindings).Perm (s.compile d' .bind).bindings :=
    (hleaves d).trans (hleaves d').symm
  have heq (d d' : Dialect) (h : s.isSelection ∧ s.nestsSelectionsOnly) :
      (s.compile d .bind).bindings = (s.compile d' .bind).bindings := by
    rw [StatementOf.compile_bind, StatementOf.compile_bind]
    exact (StatementOf.bindings_render_eq d (.inr h)).trans
      (StatementOf.bindings_render_eq d' (.inr h)).symm
  refine ⟨hleaves, hperm _ _, ?_, heq _ _⟩
  intro d d' slots ps hps
  obtain ⟨ps', hps'⟩ : ∃ ps', (s.compile d' .bind).parameters slots = .ok ps' :=
    Binding.exists_resolve_of_perm (hperm d d') hps
  refine ⟨ps', hps', Binding.resolve_perm (hperm d d') hps hps', ?_⟩
  intro hselection
  have hps'' := hps'
  rw [Compiled.parameters, ← heq d d' hselection] at hps''
  exact Binding.resolve_content_eq hps hps''

/-- An update that takes a value from a slot, compares with another and returns a third. -/
def updateWithSlots : Statement :=
  let invoices : Table := { schema? := none, name := "Invoice", enclosed := false, id := ⟨0, 0⟩ }
  let total : Column := { table := invoices, name := "Total", enclosed := false, type := .int }
  .update
    { table := invoices
      assignments := [⟨total, .slot 0 .int⟩]
      filter? := some (.of (.compare .lt (.column total) (.slot 1 .int)))
      returning := [.slot 2 .int] }

/-- The orders of the dialects differ where SQL Server returns rows. -/
example :
    (updateWithSlots.compile .sqlServer .bind).bindings =
        [.slot 0 .int, .slot 2 .int, .slot 1 .int] ∧
      (updateWithSlots.compile .postgres .bind).bindings =
        [.slot 0 .int, .slot 1 .int, .slot 2 .int] := by
  decide +kernel

/-- A selection with slots in its clauses and a value in a selection that is nested in a join. -/
def selectionWithSlots : Statement :=
  let invoices (n : UInt64) : Table :=
    { schema? := none, name := "Invoice", enclosed := false, id := ⟨0, n⟩ }
  let nested : Statement := .select { head := { fields := [.value .int (.int 7)] } }
  .select
    { head :=
        { top? := some 3
          fields := [.slot 0 .int, .call .countAll [.slot 9 .int]]
          source? := some (invoices 0)
          joins := [⟨.left, invoices 1, .of (.inQuery (.slot 1 .int) nested true)⟩]
          filter? := some (.of (.like ⟨true, false⟩ (.slot 2 .text) (.slot 0 .text))) }
      orderBy := [⟨.slot 3 .int, .descending⟩] }

/-- The dialects limit rows and ignore letter case in different ways, and agree on the bindings. -/
theorem bindings_selectionWithSlots :
    (selectionWithSlots.isSelection ∧ selectionWithSlots.nestsSelectionsOnly) ∧
      (selectionWithSlots.compile .sqlServer .bind).bindings =
        (selectionWithSlots.compile .postgres .bind).bindings ∧
      (selectionWithSlots.compile .postgres .bind).bindings =
        [.slot 0 .int, .slot 1 .int, .fixed .int (.int 7), .slot 2 .text, .slot 0 .text,
          .slot 3 .int] := by
  have hselection : selectionWithSlots.isSelection ∧ selectionWithSlots.nestsSelectionsOnly := by
    decide
  exact ⟨hselection, (dialects_register_leaves selectionWithSlots).2.2.2 hselection,
    by decide +kernel⟩

end Statements

end TypedSql
