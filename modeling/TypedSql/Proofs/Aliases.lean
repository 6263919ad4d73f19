import TypedSql.Proofs.Placement
/-!
# Aliases of well-scoped statements

A statement decides once whether its tables have aliases, and its columns are qualified by these
wherever a nested statement could confuse them. If each column of a template belongs to a table in
reach, then each qualifier in the text is declared in reach, and where there are none, there is
nothing to confuse.

## Main definitions

- `Item.IsOutermost`: what the outermost parts of a well-scoped statement are.
- `Scope`, `Within`: the bodies around a part of a layout.
- `Item.Resolves`: what the bodies around a part say of it.

## Main statements

- `StatementOf.WellScoped.isOutermost`: the invariant of the outermost parts.
- `Layout.IsBody.resolves`: the invariant of a body, read for all parts that are nested in it.
- `well_scoped_statement_declares_aliases`: qualifiers and declarations of a well-scoped statement.

## Design notes

The invariant of a body is proved from the inside out, as a fold over conditions. It is read from
the outside in, by induction on the bodies that a part stands within.
-/

namespace TypedSql

section Statements

variable (d : Dialect)

/-- The part of a statement is a body that declares the tables in its reach, with one table at most
where these have no aliases, or it belongs anywhere. -/
inductive Item.IsOutermost (aliased : Bool) : Item → Prop where
  | anywhere {i : Item} (h : i.Placed [] false) : IsOutermost aliased i
  | scope {tables : List Table} {items : Layout} (hbody : Layout.IsBody tables aliased items)
      (htables : items.tables = tables) (hsingle : aliased = false → tables.length ≤ 1) :
      IsOutermost aliased (.scope aliased items)

theorem SelectOf.ScopedWith.isOutermost {s : SelectOf Condition}
    (h : s.ScopedWith Condition.WellScoped []) :
    ∀ i ∈ (s.map (Condition.laidOut d)).layout d false,
      i.IsOutermost (s.usesAliases Condition.hasSubquery) := by
  intro i hi
  rcases h.mem_layout (fun c _ => c.placed_laidOut) hi with
    hi | ⟨tables, items, rfl, hbody, ht, hone⟩
  · exact .anywhere hi
  · rw [Bool.false_or, List.append_nil] at *
    exact .scope hbody ht hone

theorem Condition.any_hasSubquery_or {filter? : Option Condition} {c : Condition}
    (hc : c ∈ filter?) : filter?.any hasSubquery = true ∨ c.hasSubquery = false := by
  rw [Option.mem_def.1 hc, Option.any_some]
  exact Bool.eq_false_or_eq_true _

namespace UpdateOf

/-- An update declares each of its tables once, in one of two places. -/
theorem isBody_declarations {γ : Type} {s : UpdateOf γ} {qualified : Bool}
    (h : qualified = false → s.sources = []) (reach : List Table) :
    Layout.IsBody reach qualified (s.layoutTarget d qualified) ∧
      Layout.IsBody reach qualified (s.layoutSources d qualified) ∧
      (s.layoutTarget d qualified).tables ++ (s.layoutSources d qualified).tables = s.tables := by
  cases qualified with
  | false =>
    have hsources := h rfl
    cases d <;> simp [layoutTarget, layoutSources, tables, hsources]
  | true =>
    cases d with
    | sqlServer =>
      simp [layoutTarget, layoutSources, tables, Layout.isBody_ofTables, Layout.tables_ofTables]
    | postgres =>
      cases hsources : s.sources with
      | nil => simp [layoutTarget, layoutSources, tables, hsources]
      | cons t rest =>
        simp [layoutTarget, layoutSources, tables, hsources, Layout.isBody_ofTables,
          Layout.tables_ofTables]

/-- An update whose values and condition belong to its tables is one body. -/
theorem isOutermost_layout {s : UpdateOf LaidOutCondition} {qualified : Bool}
    (hqualified : s.usesAliases LaidOutCondition.hasSubquery = qualified)
    (hvalues : ∀ a ∈ s.assignments, a.value.BelongsTo s.tables)
    (hfilter : ∀ c ∈ s.filter?, Layout.Placed s.tables qualified (c.layout qualified)) :
    ∀ i ∈ s.layout d, i.IsOutermost qualified := by
  have hbare : qualified = false → s.sources = [] := by
    rintro rfl
    simp only [usesAliases, Bool.or_eq_false_iff, Bool.not_eq_false', List.isEmpty_iff]
      at hqualified
    exact hqualified.1
  have hsingle : qualified = false → s.tables.length ≤ 1 := by
    intro h
    simp [tables, hbare h]
  obtain ⟨htarget, hsources, htables⟩ := isBody_declarations d hbare s.tables
  have hassignments : Layout.Placed s.tables qualified
      (layoutAssignments d qualified s.assignments) := placed_layoutAssignments d hvalues
  have hwhere := LaidOutCondition.placed_clause " WHERE " hfilter
  intro i hi
  cases d with
  | sqlServer =>
    have houtput : Layout.Placed s.tables qualified (layoutOutput "INSERTED" s.returning) :=
      placed_layoutOutput qualified "INSERTED" s.returning
    simp only [layout, hqualified, List.mem_singleton] at hi
    subst hi
    refine .scope ?_ ?_ hsingle
    · simp [htarget, hassignments.isBody, houtput.isBody, hsources, hwhere.isBody]
    · simp [← htables, hassignments.tables_eq_nil, houtput.tables_eq_nil, hwhere.tables_eq_nil]
  | postgres =>
    have hreturning : Layout.Placed s.tables qualified (layoutReturning qualified s.returning) :=
      placed_layoutReturning qualified s.returning
    simp only [layout, hqualified, List.mem_singleton] at hi
    subst hi
    refine .scope ?_ ?_ hsingle
    · simp [htarget, hassignments.isBody, hsources, hwhere.isBody, hreturning.isBody]
    · simp [← htables, hassignments.tables_eq_nil, hwhere.tables_eq_nil, hreturning.tables_eq_nil]

theorem ScopedWith.isOutermost {s : UpdateOf Condition} (h : s.ScopedWith Condition.WellScoped []) :
    ∀ i ∈ (s.map (Condition.laidOut d)).layout d,
      i.IsOutermost (s.usesAliases Condition.hasSubquery) := by
  obtain ⟨hvalues, hfilter⟩ := h
  rw [List.append_nil] at hvalues hfilter
  refine isOutermost_layout d ?_ hvalues ?_
  · rw [usesAliases_map, Condition.hasSubquery_comp_laidOut]
  · intro c' hc'
    obtain ⟨c, hc, rfl⟩ := Option.map_eq_some_iff.1 hc'
    refine c.placed_laidOut _ s.tables (hfilter c hc) ?_
    refine (Condition.any_hasSubquery_or hc).imp_left fun h => ?_
    rw [usesAliases, h, Bool.or_true]

end UpdateOf

namespace DeleteOf

/-- PostgreSQL declares the tables of a removal in front of its condition. -/
theorem isBody_declarations {γ : Type} {s : DeleteOf γ} {qualified : Bool}
    (h : qualified = false → s.joins = []) (reach : List Table) :
    Layout.IsBody reach qualified (s.layoutTarget .postgres qualified) ∧
      Layout.IsBody reach qualified (s.layoutSources .postgres qualified) ∧
      (s.layoutTarget .postgres qualified).tables
        ++ (s.layoutSources .postgres qualified).tables = s.tables := by
  cases hjoins : s.joins with
  | nil => simp [layoutTarget, layoutSources, tables, hjoins]
  | cons j rest =>
    cases qualified with
    | false =>
      rw [h rfl] at hjoins
      cases hjoins
    | true =>
      simp [layoutTarget, layoutSources, tables, hjoins, Layout.isBody_ofTables,
        Layout.tables_ofTables]

/-- A removal whose conditions belong to its tables is one body. -/
theorem isOutermost_layout {s : DeleteOf LaidOutCondition} {qualified : Bool}
    (hqualified : s.usesAliases LaidOutCondition.hasSubquery = qualified)
    (hjoins : ∀ j ∈ s.joins, Layout.Placed s.tables qualified (j.on.layout qualified))
    (hfilter : ∀ c ∈ s.filter?, Layout.Placed s.tables qualified (c.layout qualified)) :
    ∀ i ∈ s.layout d, i.IsOutermost qualified := by
  have hbare : qualified = false → s.joins = [] := by
    rintro rfl
    simp only [usesAliases, Bool.or_eq_false_iff, Bool.not_eq_false', List.isEmpty_iff]
      at hqualified
    exact hqualified.1
  have hsingle : qualified = false → s.tables.length ≤ 1 := by
    intro h
    simp [tables, hbare h]
  intro i hi
  cases d with
  | sqlServer =>
    have houtput : Layout.Placed s.tables qualified (layoutOutput "DELETED" s.returning) :=
      placed_layoutOutput qualified "DELETED" s.returning
    have hwhere := LaidOutCondition.placed_clause " WHERE " hfilter
    simp only [layout, hqualified, List.mem_singleton] at hi
    subst hi
    cases qualified with
    | true =>
      obtain ⟨hjoined, htables⟩ := isBody_layoutJoins hjoins
      refine .scope ?_ ?_ hsingle
      · simp [layoutTarget, layoutSources, houtput.isBody, hjoined, hwhere.isBody]
      · simp [layoutTarget, layoutSources, tables, houtput.tables_eq_nil, htables,
          hwhere.tables_eq_nil]
    | false =>
      refine .scope ?_ ?_ hsingle
      · simp [layoutTarget, layoutSources, houtput.isBody, hwhere.isBody]
      · simp [layoutTarget, layoutSources, tables, hbare, houtput.tables_eq_nil,
          hwhere.tables_eq_nil]
  | postgres =>
    have hreturning : Layout.Placed s.tables qualified (layoutReturning qualified s.returning) :=
      placed_layoutReturning qualified s.returning
    -- the conditions of the joins are merged into the filter
    have hconditions : ∀ c ∈ s.joins.map Join.on ++ s.filter?.toList,
        Layout.Placed s.tables qualified (c.layout qualified) := by
      rw [List.forall_mem_append, List.forall_mem_map]
      exact ⟨hjoins, fun c hc => hfilter c (Option.mem_toList.1 hc)⟩
    have hwhere := LaidOutCondition.placed_clause " WHERE "
      (LaidOutCondition.placed_all? hconditions)
    obtain ⟨htarget, hsources, htables⟩ := isBody_declarations hbare s.tables
    simp only [layout, hqualified, List.mem_singleton] at hi
    subst hi
    refine .scope ?_ ?_ hsingle
    · simp [htarget, hsources, hwhere.isBody, hreturning.isBody]
    · simp [← htables, hwhere.tables_eq_nil, hreturning.tables_eq_nil]

theorem ScopedWith.isOutermost {s : DeleteOf Condition} (h : s.ScopedWith Condition.WellScoped []) :
    ∀ i ∈ (s.map (Condition.laidOut d)).layout d,
      i.IsOutermost (s.usesAliases Condition.hasSubquery) := by
  obtain ⟨hjoins, hfilter⟩ := h
  rw [List.append_nil] at hjoins hfilter
  refine isOutermost_layout d ?_ ?_ ?_
  · rw [usesAliases_map, Condition.hasSubquery_comp_laidOut]
  · rw [tables_map, map_joins, List.forall_mem_map]
    intro j hj
    -- a removal with joins has aliases, whatever its conditions nest
    refine j.on.placed_laidOut _ s.tables (hjoins j hj) (.inl ?_)
    have hne : s.joins.isEmpty = false := by
      rw [List.isEmpty_eq_false_iff]
      exact List.ne_nil_of_mem hj
    rw [usesAliases, hne]
    rfl
  · intro c' hc'
    obtain ⟨c, hc, rfl⟩ := Option.map_eq_some_iff.1 hc'
    rw [tables_map]
    refine c.placed_laidOut _ s.tables (hfilter c hc) ?_
    refine (Condition.any_hasSubquery_or hc).imp_left fun h => ?_
    rw [usesAliases, h, Bool.or_true]

end DeleteOf

/-- Each outermost part of a well-scoped statement is a body, with aliases if the statement says so,
or belongs anywhere. -/
theorem StatementOf.WellScoped.isOutermost {s : Statement} (h : s.WellScoped) :
    ∃ aliased, s.isQualified? = some aliased ∧ ∀ i ∈ s.layout d, i.IsOutermost aliased := by
  cases s with
  | select s => exact ⟨_, rfl, SelectOf.ScopedWith.isOutermost d h⟩
  | insert s => exact h.elim
  | update s => exact ⟨_, rfl, UpdateOf.ScopedWith.isOutermost d h⟩
  | delete s => exact ⟨_, rfl, DeleteOf.ScopedWith.isOutermost d h⟩
  | truncate table => exact h.elim

end Statements

section Scopes

/-- A body that a part of a layout stands within. -/
structure Scope where
  /-- Whether its tables have aliases. -/
  aliased : Bool
  items : Layout

/-- The part stands in the layout, within the bodies of the list, of which the first is the
innermost one. -/
inductive Within : Layout → List Scope → Item → Prop where
  | here {l : Layout} {i : Item} (hi : i ∈ l) : Within l [] i
  | inner {l items : Layout} {aliased : Bool} {scopes : List Scope} {i : Item}
      (hscope : .scope aliased items ∈ l) (hi : Within items scopes i) :
      Within l (scopes ++ [⟨aliased, items⟩]) i

/-- The innermost body that a part stands within stands within the others itself. -/
theorem Within.of_cons {l : Layout} {scope : Scope} {outer : List Scope} {i : Item}
    (h : Within l (scope :: outer) i) : Within l outer (.scope scope.aliased scope.items) := by
  generalize hscopes : scope :: outer = scopes at h
  induction h generalizing outer with
  | here hi => cases hscopes
  | @inner l items aliased scopes i hscope hi ih =>
    cases scopes with
    | nil =>
      obtain ⟨rfl, rfl⟩ := List.cons.inj hscopes
      exact .here hscope
    | cons innermost rest =>
      obtain ⟨rfl, rfl⟩ := List.cons.inj hscopes
      exact .inner hscope (ih rfl)

/-- Among the bodies, one declares the table of the column, with its alias or without. -/
def Column.IsDeclared (c : Column) (aliased : Bool) (scopes : List Scope) : Prop :=
  ∃ scope ∈ scopes, ∃ t, .table aliased t ∈ scope.items ∧ c.table.sameInstance t

/-- What the bodies around a part, from the innermost one outwards, say of it. Tables are declared
as their body says, and each column that is an operand belongs to a table that is declared. With
aliases the column is qualified by that of its table. A body without aliases is on its own and has
one table at most. -/
def Item.Resolves (scopes : List Scope) : Item → Prop
  | .text _ => True
  | .binding _ => True
  | .column .operand qualifier? c =>
    ∃ scope outer, scopes = scope :: outer ∧ c.IsDeclared scope.aliased scopes ∧
      qualifier? = if scope.aliased then some c.table.aliasName else none
  | .column .target qualifier? _ => qualifier? = none
  | .column .returned _ _ => True
  | .column .resultOrder qualifier? _ => qualifier? = none
  | .table aliased _ => ∃ scope outer, scopes = scope :: outer ∧ scope.aliased = aliased
  | .scope aliased items =>
    aliased = false →
      scopes = [] ∧ (∀ aliased' items', .scope aliased' items' ∉ items) ∧
        (Layout.tables items).length ≤ 1

/-- A part that belongs into a body is resolved by this body and those around it, if they declare
the tables in reach. -/
theorem Item.Placed.resolves {reach : List Table} {i : Item} {scope : Scope} {outer : List Scope}
    (h : i.Placed reach scope.aliased)
    (hreach : ∀ t ∈ reach, ∃ s ∈ scope :: outer, .table scope.aliased t ∈ s.items) :
    i.Resolves (scope :: outer) := by
  obtain ⟨aliased, l⟩ := scope
  cases h with
  | text s => trivial
  | binding b => trivial
  | operand h =>
    obtain ⟨t, ht, hsame⟩ := h
    obtain ⟨s, hs, hdeclared⟩ := hreach t ht
    exact ⟨⟨aliased, l⟩, outer, rfl, ⟨s, hs, t, hdeclared, hsame⟩, rfl⟩
  | target c => exact rfl
  | returned qualifier? c => trivial
  | resultOrder c => exact rfl
  | scope hdeclared hitems => exact fun h => absurd h Bool.noConfusion

/-- The parts of a body are resolved, at any depth. -/
theorem Layout.IsBody.resolves {reach : List Table} (scope : Scope) {outer scopes : List Scope}
    {i : Item} (hbody : Layout.IsBody reach scope.aliased scope.items)
    (hreach : ∀ t ∈ reach, ∃ s ∈ scope :: outer, .table scope.aliased t ∈ s.items)
    (hi : Within scope.items scopes i) : i.Resolves (scopes ++ scope :: outer) := by
  generalize hitems : scope.items = l at hi
  -- from the outside in: each body adds its tables to those in reach
  induction hi generalizing reach scope outer with
  | @here _ i hi =>
    subst hitems
    rw [List.nil_append]
    by_cases htable : ∃ t, i = .table scope.aliased t
    · obtain ⟨t, rfl⟩ := htable
      exact ⟨scope, outer, rfl, rfl⟩
    · exact (hbody i hi (not_exists.1 htable)).resolves hreach
  | @inner _ items aliased scopes i hscope hi ih =>
    subst hitems
    have hplaced := hbody _ hscope (by simp)
    generalize hflag : scope.aliased = flag at hplaced hreach
    cases hplaced with
    | @scope _ inner _ hdeclared hitems =>
      -- a body within another has aliases, and so has the one around it
      rw [List.append_assoc, List.singleton_append]
      refine ih ⟨true, items⟩ hitems ?_ rfl
      intro t ht
      rcases hdeclared t ht with ht | ht
      · obtain ⟨s, hs, hdecl⟩ := hreach t ht
        exact ⟨s, List.mem_cons_of_mem _ hs, hdecl⟩
      · exact ⟨_, List.mem_cons_self, ht⟩

/-- The parts of a well-scoped statement are resolved, at any depth. -/
theorem StatementOf.WellScoped.resolves (d : Dialect) {s : Statement} (h : s.WellScoped)
    {scopes : List Scope} {i : Item} (hi : Within (s.layout d) scopes i) : i.Resolves scopes := by
  obtain ⟨aliased, -, houtermost⟩ := h.isOutermost d
  cases hi with
  | here hi =>
    cases houtermost i hi with
    | anywhere h =>
      cases h with
      | text s => trivial
      | binding b => trivial
      | operand h => simp at h
      | target c => exact rfl
      | returned qualifier? c => trivial
      | resultOrder c => exact rfl
    | @scope tables items hbody htables hsingle =>
      rintro rfl
      refine ⟨rfl, fun aliased' items' hinner => ?_, ?_⟩
      · have hplaced := hbody _ hinner (by simp)
        cases hplaced
      · rw [htables]
        exact hsingle rfl
  | @inner _ items _ scopes _ hscope hi =>
    cases houtermost _ hscope with
    | anywhere h => cases h
    | scope hbody htables =>
      refine hbody.resolves ⟨aliased, items⟩ ?_ hi
      intro t ht
      rw [← htables] at ht
      exact ⟨_, List.mem_cons_self, hbody.mem_of_mem_tables ht⟩

/-- Where aliases are needed, they are there. The text of a well-scoped statement consists of bodies
with aliases and bodies without, as the statement says of the outermost ones. Each qualifier in
front of a column that is not returned is the alias of the column's table, which this body or one
around it declares with it. In a body with aliases, each operand column has such a qualifier. A body
without aliases is not nested in another and nests none itself; it declares one table at most, to
which its operand columns belong. -/
theorem well_scoped_statement_declares_aliases (d : Dialect) {s : Statement} (h : s.WellScoped) :
    (s.layout d).write d = s.write d ∧
    (∃ aliased, s.isQualified? = some aliased ∧
      ∀ aliased' items, .scope aliased' items ∈ s.layout d → aliased' = aliased) ∧
    (∀ scopes aliased t, Within (s.layout d) scopes (.table aliased t) →
      ∃ scope outer, scopes = scope :: outer ∧ scope.aliased = aliased) ∧
    (∀ scopes role qualifier c, Within (s.layout d) scopes (.column role (some qualifier) c) →
      role ≠ .returned →
        ∃ scope ∈ scopes, ∃ t, .table true t ∈ scope.items ∧ c.table.sameInstance t ∧
          qualifier = t.aliasName) ∧
    (∀ scopes qualifier? c, Within (s.layout d) scopes (.column .operand qualifier? c) →
      ∃ scope outer, scopes = scope :: outer ∧
        (scope.aliased = true → qualifier? = some c.table.aliasName) ∧
        (scope.aliased = false → qualifier? = none ∧ outer = [] ∧
          ∃ t, .table false t ∈ scope.items ∧ c.table.sameInstance t)) ∧
    (∀ scopes items, Within (s.layout d) scopes (.scope false items) →
      scopes = [] ∧ (∀ aliased' items', .scope aliased' items' ∉ items) ∧
        (Layout.tables items).length ≤ 1) := by
  refine ⟨s.layout_write d, ?decision, fun _ _ _ hi => h.resolves d hi, ?declared, ?qualified,
    fun _ _ hi => h.resolves d hi rfl⟩
  case decision =>
    obtain ⟨aliased, hqualified, houtermost⟩ := h.isOutermost d
    refine ⟨aliased, hqualified, fun aliased' items hi => ?_⟩
    cases houtermost _ hi with
    | anywhere h => cases h
    | scope => rfl
  case declared =>
    intro scopes role qualifier c hi hrole
    have hresolved := h.resolves d hi
    cases role with
    | operand =>
      obtain ⟨scope, outer, rfl, ⟨s', hs', t, ht, hsame⟩, hqualifier⟩ := hresolved
      obtain ⟨haliased, rfl⟩ : scope.aliased = true ∧ qualifier = c.table.aliasName := by
        simpa using hqualifier
      rw [haliased] at ht
      exact ⟨s', hs', t, ht, hsame, Table.aliasName_eq hsame⟩
    | returned => exact absurd rfl hrole
    | target => cases hresolved
    | resultOrder => cases hresolved
  case qualified =>
    intro scopes qualifier? c hi
    obtain ⟨scope, outer, rfl, ⟨s', hs', t, ht, hsame⟩, hqualifier⟩ := h.resolves d hi
    refine ⟨scope, outer, rfl, ?_, ?_⟩
    · intro haliased
      rw [hqualifier, if_pos haliased]
    · intro haliased
      -- a body without aliases has none around it, so the column's table is its own
      obtain ⟨rfl, -, -⟩ := h.resolves d hi.of_cons haliased
      obtain rfl := List.mem_singleton.1 hs'
      rw [haliased] at ht hqualifier
      exact ⟨hqualifier, rfl, t, ht, hsame⟩

/-- A change of customers whose condition asks for a chain of selections from invoices, each of
which mentions the customer. -/
def correlatedUpdate : Statement :=
  let customers : Table := { schema? := none, name := "Customer", enclosed := false, id := ⟨0, 0⟩ }
  let invoices (n : UInt64) : Table :=
    { schema? := none, name := "Invoice", enclosed := false, id := ⟨0, n⟩ }
  let column (table : Table) (name : String) : Column :=
    { table, name, enclosed := false, type := .int }
  let ofCustomer (n : UInt64) : SelectBody Condition :=
    { fields := [.column (column (invoices n) "id")]
      source? := some (invoices n)
      filter? := some (.of (.compare .eq (.column (column (invoices n) "customer"))
        (.column (column customers "id")))) }
  .update
    { table := customers
      assignments := [⟨column customers "invoiced", .value .int (.int 1)⟩]
      filter? := some (.of (.existsQuery
        (.select { head := ofCustomer 1, unions := [(.union, ofCustomer 2)] }) false)) }

/-- Each column of the change belongs to a table in reach, the customer also where it is mentioned
in a nested selection. -/
theorem wellScoped_correlatedUpdate : correlatedUpdate.WellScoped := by
  refine ⟨?_, ?_⟩
  · simp [Expr.BelongsTo, Expr.columns]
  · rintro c ⟨rfl⟩
    rw [Condition.wellScoped_of]
    refine ⟨rfl, ?_, fun hunions => absurd hunions (by simp)⟩
    simp only [SelectOf.bodies, List.map_cons, List.map_nil, List.forall_mem_cons]
    refine ⟨?_, ?_, by simp⟩
    all_goals
      constructor
      · simp [SelectBody.exprs, SelectBody.tables, Expr.BelongsTo, Expr.columns, Table.sameInstance]
      · simp [SelectBody.conditions, SelectBody.tables, Condition.wellScoped_of,
          Predicate.ScopedWith, Predicate.exprs, Predicate.children, UpdateOf.tables,
          Expr.BelongsTo, Expr.columns, Table.sameInstance]

/-- The dialects declare the customer in different places, and the nested selections mention it by
the alias that is declared there. -/
theorem declares_aliases_correlatedUpdate :
    correlatedUpdate.WellScoped ∧ correlatedUpdate.isQualified? = some true ∧
      (∀ d scopes role qualifier c,
        Within (correlatedUpdate.layout d) scopes (.column role (some qualifier) c) →
          role ≠ .returned → ∃ scope ∈ scopes, ∃ t, .table true t ∈ scope.items ∧
            c.table.sameInstance t ∧ qualifier = t.aliasName) ∧
      (correlatedUpdate.write .postgres).inlined.sql =
        "UPDATE \"Customer\" AS _0 SET invoiced=1 WHERE EXISTS("
          ++ "SELECT _1.id FROM \"Invoice\" AS _1 WHERE _1.customer=_0.id UNION "
          ++ "SELECT _2.id FROM \"Invoice\" AS _2 WHERE _2.customer=_0.id)" ∧
      (correlatedUpdate.write .sqlServer).inlined.sql =
        "UPDATE _0 SET invoiced=1 FROM Customer AS _0 WHERE EXISTS("
          ++ "SELECT _1.id FROM Invoice AS _1 WHERE _1.customer=_0.id UNION "
          ++ "SELECT _2.id FROM Invoice AS _2 WHERE _2.customer=_0.id)" := by
  refine ⟨wellScoped_correlatedUpdate, rfl, fun d => ?_, ?_, ?_⟩
  · obtain ⟨-, -, -, hdeclared, -⟩ :=
      well_scoped_statement_declares_aliases d wellScoped_correlatedUpdate
    exact hdeclared
  · decide +kernel
  · decide +kernel

end Scopes

end TypedSql
