import TypedSql.Proofs.Layout
import TypedSql.Proofs.Scoping
/-!
# What belongs where in a layout

A body of a layout declares tables, and its parts mention columns of the tables in reach. The
invariant of its parts says that their qualifiers fit the body and their columns the tables; it
holds of the layout of each well-scoped condition.

## Main definitions

- `Item.Placed`: a part belongs where it stands.
- `Layout.IsBody`: each part declares a table or belongs where it stands.
- `Layout.tables`: the tables that are declared.

## Main statements

- `SelectBody.isBody_layout`: a selection is a body that declares its tables.
- `Condition.placed_laidOut`: the parts of a well-scoped condition belong where they stand.

## Design notes

The invariant is about one body and the tables that its parts may mention. A body in it has an
invariant of its own, with tables that are declared in it or are in reach around it.
-/

namespace TypedSql

/-- The part belongs where it stands: in a body whose tables have aliases or have none, and in
reach of the given tables. Only a body with aliases has bodies in it, and these have aliases too. -/
inductive Item.Placed : List Table → Bool → Item → Prop where
  | text {reach : List Table} {aliased : Bool} (s : String) : Placed reach aliased (.text s)
  | binding {reach : List Table} {aliased : Bool} (b : Binding) : Placed reach aliased (.binding b)
  | operand {reach : List Table} {aliased : Bool} {c : Column}
      (h : ∃ t ∈ reach, c.table.sameInstance t) :
      Placed reach aliased
        (.column .operand (if aliased then some c.table.aliasName else none) c)
  | target {reach : List Table} {aliased : Bool} (c : Column) :
      Placed reach aliased (.column .target none c)
  | returned {reach : List Table} {aliased : Bool} (qualifier? : Option String) (c : Column) :
      Placed reach aliased (.column .returned qualifier? c)
  | resultOrder {reach : List Table} {aliased : Bool} (c : Column) :
      Placed reach aliased (.column .resultOrder none c)
  | scope {reach inner : List Table} {items : Layout}
      (hdeclared : ∀ t ∈ inner, t ∈ reach ∨ Item.table true t ∈ items)
      (hitems : ∀ i ∈ items, (∀ t, i ≠ .table true t) → Placed inner true i) :
      Placed reach true (.scope true items)

namespace Layout

/-- Each part belongs where it stands. -/
def Placed (reach : List Table) (aliased : Bool) (l : Layout) : Prop :=
  ∀ i ∈ l, i.Placed reach aliased

/-- Each part declares a table or belongs where it stands. -/
def IsBody (reach : List Table) (aliased : Bool) (l : Layout) : Prop :=
  ∀ i ∈ l, (∀ t, i ≠ .table aliased t) → i.Placed reach aliased

/-- The tables that are declared, those of nested bodies left out. -/
def tables (l : Layout) : List Table :=
  l.filterMap fun
    | .table _ t => some t
    | _ => none

variable {reach : List Table} {aliased : Bool}

@[simp]
theorem placed_nil : Placed reach aliased [] := by
  simp [Placed]

@[simp]
theorem placed_append {l l' : Layout} :
    Placed reach aliased (l ++ l') ↔ Placed reach aliased l ∧ Placed reach aliased l' := by
  simp only [Placed, List.forall_mem_append]

@[simp]
theorem placed_ofText (s : String) : Placed reach aliased (ofText s) := by
  intro i hi
  obtain rfl := List.mem_singleton.1 hi
  exact .text s

@[simp]
theorem placed_parenthesised {l : Layout} :
    Placed reach aliased (parenthesised l) ↔ Placed reach aliased l := by
  simp [parenthesised]

theorem placed_commaSeparated {ls : List Layout} (h : ∀ l ∈ ls, Placed reach aliased l) :
    Placed reach aliased (commaSeparated ls) := by
  cases ls with
  | nil => exact placed_nil
  | cons first rest =>
    induction rest generalizing first with
    | nil => simpa [commaSeparated] using h first (by simp)
    | cons next rest ih =>
      rw [commaSeparated_cons_cons, placed_append, placed_append]
      refine ⟨⟨h first (by simp), placed_ofText ","⟩, ih next ?_⟩
      intro l hl
      exact h l (List.mem_cons_of_mem _ hl)

theorem placed_listAfter {opening : String} {ls : List Layout}
    (h : ∀ l ∈ ls, Placed reach aliased l) : Placed reach aliased (listAfter opening ls) := by
  rw [listAfter]
  split
  · exact placed_nil
  · exact placed_append.2 ⟨placed_ofText opening, placed_commaSeparated h⟩

theorem placed_connected {connective : String} {left right : Layout}
    (hleft : Placed reach aliased left) (hright : Placed reach aliased right) :
    Placed reach aliased (connected connective left right) := by
  simp [connected, hleft, hright]

theorem Placed.isBody {l : Layout} (h : Placed reach aliased l) : IsBody reach aliased l :=
  fun i hi _ => h i hi

@[simp]
theorem isBody_nil : IsBody reach aliased [] := by
  simp [IsBody]

@[simp]
theorem isBody_append {l l' : Layout} :
    IsBody reach aliased (l ++ l') ↔ IsBody reach aliased l ∧ IsBody reach aliased l' := by
  simp only [IsBody, List.forall_mem_append]

@[simp]
theorem isBody_ofText (s : String) : IsBody reach aliased (ofText s) := (placed_ofText s).isBody

@[simp]
theorem isBody_table_cons {t : Table} {l : Layout} :
    IsBody reach aliased (.table aliased t :: l) ↔ IsBody reach aliased l := by
  rw [IsBody, List.forall_mem_cons, and_iff_right]
  · exact Iff.rfl
  · intro hne
    exact absurd rfl (hne t)

@[simp]
theorem tables_nil : tables [] = [] := rfl

@[simp]
theorem tables_append (l l' : Layout) : tables (l ++ l') = tables l ++ tables l' :=
  List.filterMap_append

@[simp]
theorem tables_ofText (s : String) : tables (ofText s) = [] := rfl

@[simp]
theorem tables_table_cons (t : Table) (l : Layout) :
    tables (.table aliased t :: l) = t :: tables l := rfl

/-- Parts of expressions and conditions declare no table in the body that they stand in. -/
theorem Placed.tables_eq_nil {l : Layout} (h : Placed reach aliased l) : l.tables = [] := by
  rw [tables, List.filterMap_eq_nil_iff]
  intro i hi
  cases h i hi <;> rfl

theorem IsBody.mem_of_mem_tables {l : Layout} (h : IsBody reach aliased l) {t : Table}
    (ht : t ∈ l.tables) : .table aliased t ∈ l := by
  obtain ⟨i, hi, hit⟩ := List.mem_filterMap.1 ht
  cases i with
  | table aliased' t' =>
    obtain rfl : t' = t := Option.some.inj hit
    by_cases hne : aliased' = aliased
    · rw [← hne]
      exact hi
    · have hplaced := h _ hi fun t'' heq => hne (Item.table.inj heq).1
      cases hplaced
  | _ => cases hit

theorem isBody_ofTables (ts : List Table) : IsBody reach aliased (ofTables aliased ts) := by
  cases ts with
  | nil => exact isBody_nil
  | cons first rest =>
    induction rest generalizing first with
    | nil => simp [ofTables, commaSeparated]
    | cons next rest ih =>
      have hnext := ih next
      simp only [ofTables, List.map_cons] at hnext ⊢
      rw [commaSeparated_cons_cons, isBody_append, isBody_append]
      exact ⟨⟨by simp, isBody_ofText ","⟩, hnext⟩

theorem tables_ofTables (ts : List Table) : (ofTables aliased ts).tables = ts := by
  cases ts with
  | nil => rfl
  | cons first rest =>
    induction rest generalizing first with
    | nil => simp [ofTables, commaSeparated]
    | cons next rest ih =>
      have hnext := ih next
      simp only [ofTables, List.map_cons] at hnext ⊢
      rw [commaSeparated_cons_cons, tables_append, tables_append, hnext]
      simp

end Layout

section Expressions

variable {reach : List Table} {aliased : Bool} (d : Dialect) (role : ColumnRole) (qualified : Bool)

theorem SqlFunction.placed_layoutCall {function : SqlFunction} {args : List Layout}
    (h : function ≠ .countAll → ∀ l ∈ args, Layout.Placed reach aliased l) :
    Layout.Placed reach aliased (function.layoutCall d args) := by
  cases function with
  | countAll => exact Layout.placed_ofText _
  | _ => simp [layoutCall, Layout.placed_commaSeparated (h (by simp))]

mutual

theorem Expr.placed_layout : ∀ e : Expr,
    (∀ c ∈ e.columns,
      (Item.column role (if qualified then some c.table.aliasName else none) c).Placed reach aliased) →
    Layout.Placed reach aliased (e.layout d role qualified)
  | .column c => fun h i hi => by
    obtain rfl := List.mem_singleton.1 hi
    exact h c (by simp [columns])
  | .value type v => fun _ i hi => by
    obtain rfl := List.mem_singleton.1 hi
    exact .binding _
  | .slot index type => fun _ i hi => by
    obtain rfl := List.mem_singleton.1 hi
    exact .binding _
  | .call function args => fun h => by
    rw [layout]
    refine SqlFunction.placed_layoutCall d fun hfunction => Expr.placed_layoutList args ?_
    rwa [columns, if_neg hfunction] at h
  | .arithmetic op left right => fun h => by
    rw [columns, List.forall_mem_append] at h
    simp [layout, Expr.placed_layout left h.1, Expr.placed_layout right h.2]
  | .raw sql => fun _ => Layout.placed_ofText sql

theorem Expr.placed_layoutList : ∀ es : List Expr,
    (∀ c ∈ Expr.columnsOfList es,
      (Item.column role (if qualified then some c.table.aliasName else none) c).Placed
        reach aliased) →
    ∀ l ∈ Expr.layoutList d role qualified es, Layout.Placed reach aliased l
  | [] => fun _ l hl => absurd hl List.not_mem_nil
  | e :: rest => fun h l hl => by
    rw [columnsOfList, List.forall_mem_append] at h
    rcases List.mem_cons.1 hl with rfl | hl
    · exact Expr.placed_layout e h.1
    · exact Expr.placed_layoutList rest h.2 l hl

end

/-- An expression whose columns belong to tables in reach can stand among conditions and values. -/
theorem Expr.BelongsTo.placed {e : Expr} (h : e.BelongsTo reach) :
    Layout.Placed reach qualified (e.layout d .operand qualified) :=
  e.placed_layout d .operand qualified fun c hc => .operand (h c hc)

theorem Expr.placed_layout_returned (e : Expr) :
    Layout.Placed reach aliased (e.layout d .returned qualified) :=
  e.placed_layout d .returned qualified fun c _ => .returned _ c

theorem Expr.placed_layout_resultOrder (e : Expr) :
    Layout.Placed reach aliased (e.layout d .resultOrder false) :=
  e.placed_layout d .resultOrder false fun c _ => .resultOrder c

theorem Expr.placed_layoutCommaSeparated {es : List Expr} (h : ∀ e ∈ es, e.BelongsTo reach) :
    Layout.Placed reach qualified (Expr.layoutCommaSeparated d .operand qualified es) := by
  apply Layout.placed_commaSeparated
  rw [List.forall_mem_map]
  exact fun e he => (h e he).placed d qualified

end Expressions

section Clauses

variable {reach : List Table} (d : Dialect) {qualified : Bool}

namespace LaidOutCondition

theorem placed_clause (keyword : String) {c? : Option LaidOutCondition}
    (h : ∀ c ∈ c?, Layout.Placed reach qualified (c.layout qualified)) :
    Layout.Placed reach qualified (clause keyword qualified c?) := by
  cases c? with
  | none => exact Layout.placed_nil
  | some c => exact Layout.placed_append.2 ⟨Layout.placed_ofText keyword, h c rfl⟩

theorem placed_all? {cs : List LaidOutCondition}
    (h : ∀ c ∈ cs, Layout.Placed reach qualified (c.layout qualified)) :
    ∀ c ∈ all? cs, Layout.Placed reach qualified (c.layout qualified) := by
  cases cs with
  | nil => simp [all?]
  | cons c rest =>
    induction rest generalizing c with
    | nil => simpa [all?] using h
    | cons next rest ih =>
      simp only [List.forall_mem_cons] at h
      refine ih (c.and next) ?_
      rw [List.forall_mem_cons]
      exact ⟨Layout.placed_connected h.1 h.2.1, h.2.2⟩

end LaidOutCondition

theorem PatternMatch.placed_layout {kind : PatternMatch} {expr pattern : Layout}
    (hexpr : Layout.Placed reach qualified expr)
    (hpattern : Layout.Placed reach qualified pattern) :
    Layout.Placed reach qualified (kind.layout d expr pattern) := by
  obtain ⟨ignoresCase, negated⟩ := kind
  cases d <;> cases ignoresCase <;> simp [layout, hexpr, hpattern]

theorem isBody_layoutJoins {joins : List (Join LaidOutCondition)}
    (h : ∀ j ∈ joins, Layout.Placed reach qualified (j.on.layout qualified)) :
    Layout.IsBody reach qualified (layoutJoins qualified joins) ∧
      (layoutJoins qualified joins).tables = joins.map Join.table := by
  induction joins with
  | nil => exact ⟨Layout.isBody_nil, rfl⟩
  | cons j rest ih =>
    rw [List.forall_mem_cons] at h
    obtain ⟨hrest, htables⟩ := ih h.2
    rw [layoutJoins] at hrest htables ⊢
    rw [List.flatMap_cons, Layout.isBody_append, Layout.tables_append, htables]
    refine ⟨⟨?_, hrest⟩, ?_⟩
    · simp [h.1.isBody]
    · simp [h.1.tables_eq_nil]

theorem OrderTerm.placed_layout {aliased : Bool} {role : ColumnRole} {term : OrderTerm}
    (h : Layout.Placed reach aliased (term.expr.layout d role qualified)) :
    Layout.Placed reach aliased (term.layout d role qualified) := by
  obtain ⟨expr, order⟩ := term
  cases order <;> simpa [layout] using h

theorem placed_layoutOutput (aliased : Bool) (rows : String) (fields : List Expr) :
    Layout.Placed reach aliased (layoutOutput rows fields) := by
  apply Layout.placed_listAfter
  rw [List.forall_mem_map]
  intro e _
  cases e with
  | column c =>
    intro i hi
    obtain rfl := List.mem_singleton.1 hi
    exact .returned _ c
  | _ => exact Expr.placed_layout_returned .sqlServer false _

theorem placed_layoutReturning (aliased : Bool) (fields : List Expr) :
    Layout.Placed reach aliased (layoutReturning qualified fields) := by
  apply Layout.placed_listAfter
  rw [List.forall_mem_map]
  exact fun e _ => e.placed_layout_returned .postgres qualified

theorem placed_layoutAssignments {assignments : List Assignment}
    (h : ∀ a ∈ assignments, a.value.BelongsTo reach) :
    Layout.Placed reach qualified (layoutAssignments d qualified assignments) := by
  rw [layoutAssignments, Layout.placed_append]
  refine ⟨Layout.placed_ofText _, Layout.placed_commaSeparated ?_⟩
  rw [List.forall_mem_map]
  intro a ha
  rw [Layout.placed_append, Layout.placed_append]
  refine ⟨⟨?_, Layout.placed_ofText _⟩, (h a ha).placed d qualified⟩
  intro i hi
  obtain rfl := List.mem_singleton.1 hi
  exact .target a.column

theorem SelectBody.isBody_layoutSource {γ : Type} (reach : List Table) (d : Dialect)
    (qualified : Bool) (b : SelectBody γ) :
    Layout.IsBody reach qualified (b.layoutSource d qualified) ∧
      (b.layoutSource d qualified).tables = b.source?.toList := by
  cases hsource : b.source? with
  | none => simp [layoutSource, hsource]
  | some table => simp [layoutSource, hsource]

/-- A selection whose expressions and conditions belong to tables in reach is a body that declares
its tables. -/
theorem SelectBody.isBody_layout {b : SelectBody LaidOutCondition}
    (hexprs : ∀ e ∈ b.exprs, e.BelongsTo reach)
    (hconditions : ∀ c ∈ b.conditions, Layout.Placed reach qualified (c.layout qualified)) :
    Layout.IsBody reach qualified (b.layout d qualified) ∧
      (b.layout d qualified).tables = b.tables := by
  simp only [conditions, List.forall_mem_append, List.forall_mem_map, Option.mem_toList]
    at hconditions
  obtain ⟨⟨hjoins, hfilter⟩, hhaving⟩ := hconditions
  simp only [exprs, List.forall_mem_append] at hexprs
  have hfields := Expr.placed_layoutCommaSeparated d qualified hexprs.1
  obtain ⟨hsource, htables⟩ := b.isBody_layoutSource reach d qualified
  obtain ⟨hjoined, htables'⟩ := isBody_layoutJoins hjoins
  have hwhere := LaidOutCondition.placed_clause " WHERE " hfilter
  have hgroups : Layout.Placed reach qualified
      (.listAfter " GROUP BY " (b.groupBy.map (Expr.layout d .operand qualified))) := by
    apply Layout.placed_listAfter
    rw [List.forall_mem_map]
    exact fun e he => (hexprs.2 e he).placed d qualified
  have hgroupConditions := LaidOutCondition.placed_clause " HAVING " hhaving
  constructor
  · simp [layout, hfields.isBody, hsource, hjoined, hwhere.isBody, hgroups.isBody,
      hgroupConditions.isBody]
  · simp [layout, tables, hfields.tables_eq_nil, htables, htables', hwhere.tables_eq_nil,
      hgroups.tables_eq_nil, hgroupConditions.tables_eq_nil]

end Clauses

section Bodies

variable {reach outer : List Table} (d : Dialect)

/-- A body that declares its tables with aliases belongs into each body around it whose tables it
mentions. -/
theorem Layout.IsBody.placed_scope {items : Layout} {tables : List Table}
    (h : Layout.IsBody (tables ++ outer) true items) (htables : items.tables = tables) :
    (Item.scope true items).Placed outer true := by
  refine .scope (fun t ht => ?_) h
  rcases List.mem_append.1 ht with ht | ht
  · rw [← htables] at ht
    exact .inr (h.mem_of_mem_tables ht)
  · exact .inl ht

/-- A part that needs neither tables nor aliases belongs anywhere. -/
theorem Item.Placed.anywhere {i : Item} (h : i.Placed [] false) (reach : List Table)
    (aliased : Bool) : i.Placed reach aliased := by
  cases h with
  | text s => exact .text s
  | binding b => exact .binding b
  | operand h => simp at h
  | target c => exact .target c
  | returned qualifier? c => exact .returned qualifier? c
  | resultOrder c => exact .resultOrder c

theorem SelectOf.placed_layoutOrder {γ : Type} {s : SelectOf γ} {qualified : Bool}
    (h : ∀ term ∈ s.orderBy, term.expr.BelongsTo reach) :
    Layout.Placed reach qualified (s.layoutOrder d .operand qualified) := by
  apply Layout.placed_listAfter
  rw [List.forall_mem_map]
  exact fun term hterm => OrderTerm.placed_layout d ((h term hterm).placed d qualified)

theorem SelectOf.placed_layoutOrder_resultOrder {γ : Type} (aliased : Bool) (s : SelectOf γ) :
    Layout.Placed reach aliased (s.layoutOrder d .resultOrder false) := by
  apply Layout.placed_listAfter
  rw [List.forall_mem_map]
  exact fun term _ => OrderTerm.placed_layout d (term.expr.placed_layout_resultOrder d)

theorem SelectBody.mem_layoutInChain {b : SelectBody LaidOutCondition} {qualified : Bool} {i : Item}
    (hi : i ∈ b.layoutInChain d qualified) :
    i.Placed [] false ∨ i = .scope qualified (b.layout d qualified) := by
  cases d with
  | sqlServer => exact .inr (List.mem_singleton.1 hi)
  | postgres =>
    cases htop : b.top? with
    | none =>
      simp only [layoutInChain, htop, List.mem_singleton] at hi
      exact .inr hi
    | some n =>
      simp only [layoutInChain, htop, Layout.ofText, List.mem_append, List.mem_singleton] at hi
      rcases hi with (rfl | rfl) | rfl
      · exact .inl (.text _)
      · exact .inr rfl
      · exact .inl (.text _)

/-- The parts of a chain of selections are its bodies, of which a single one has the order of the
chain, and parts that belong anywhere. -/
theorem SelectOf.mem_layout {outerQualified : Bool} {s : SelectOf LaidOutCondition} {i : Item}
    (hi : i ∈ s.layout d outerQualified) :
    let qualified := outerQualified || s.usesAliases LaidOutCondition.hasSubquery
    i.Placed [] false ∨ ∃ b ∈ s.bodies, ∃ order,
      i = .scope qualified (b.layout d qualified ++ order) ∧
        (order = [] ∨ s.unions = [] ∧ b = s.head ∧ order = s.layoutOrder d .operand qualified) := by
  intro qualified
  rw [layout, List.mem_append] at hi
  rcases hi with hi | hi
  · split at hi
    · have hunions : s.unions = [] := by simpa using ‹s.unions.isEmpty›
      exact .inr ⟨s.head, List.mem_cons_self, _, List.mem_singleton.1 hi, .inr ⟨hunions, rfl, rfl⟩⟩
    · rw [List.mem_append, List.mem_append] at hi
      rcases hi with (hi | hi) | hi
      · rcases SelectBody.mem_layoutInChain d hi with hi | rfl
        · exact .inl hi
        · exact .inr ⟨s.head, List.mem_cons_self, [], by rw [List.append_nil], .inl rfl⟩
      · obtain ⟨⟨operator, body⟩, hbody, hi⟩ := List.mem_flatMap.1 hi
        rcases List.mem_append.1 hi with hi | hi
        · exact .inl (Layout.placed_ofText _ i hi)
        · rcases SelectBody.mem_layoutInChain d hi with hi | rfl
          · exact .inl hi
          · have hmem : body ∈ s.bodies :=
              List.mem_cons_of_mem _ (List.mem_map.2 ⟨_, hbody, rfl⟩)
            exact .inr ⟨body, hmem, [], by rw [List.append_nil], .inl rfl⟩
      · exact .inl (s.placed_layoutOrder_resultOrder d false i hi)
  · exact .inl (Layout.placed_ofText _ i hi)

end Bodies

section Conditions

theorem Predicate.eq_false_of_hasSubqueryWith {γ : Type} {f : γ → Bool} {p : Predicate γ}
    (h : p.hasSubqueryWith f = false) : ∀ c ∈ p.children, f c = false := by
  cases p with
  | and left right => simpa [hasSubqueryWith, children] using h
  | or left right => simpa [hasSubqueryWith, children] using h
  | not inner => simpa [hasSubqueryWith, children] using h
  | inQuery expr query negated => exact absurd h Bool.noConfusion
  | existsQuery query negated => exact absurd h Bool.noConfusion
  | _ => simp [children]

variable (d : Dialect)

/-- A level that nests no statement belongs where its conditions do. -/
theorem Predicate.placed_layout {reach : List Table} {qualified : Bool}
    {p : Predicate LaidOutCondition} (hquery : p.query? = none)
    (hexprs : ∀ e ∈ p.exprs, e.BelongsTo reach)
    (hchildren : ∀ c ∈ p.children, Layout.Placed reach qualified (c.layout qualified)) :
    Layout.Placed reach qualified (p.layout d qualified) := by
  cases p with
  | compare op left right =>
    simp only [exprs, List.forall_mem_cons] at hexprs
    simp [layout, hexprs.1.placed d qualified, hexprs.2.1.placed d qualified]
  | and left right =>
    simp only [children, List.forall_mem_cons] at hchildren
    exact Layout.placed_connected hchildren.1 hchildren.2.1
  | or left right =>
    simp only [children, List.forall_mem_cons] at hchildren
    exact Layout.placed_connected hchildren.1 hchildren.2.1
  | not inner =>
    simp only [children, List.forall_mem_cons] at hchildren
    simp [layout, hchildren.1]
  | between expr low high negated =>
    simp only [exprs, List.forall_mem_cons] at hexprs
    simp [layout, hexprs.1.placed d qualified, hexprs.2.1.placed d qualified,
      hexprs.2.2.1.placed d qualified]
  | inList expr items negated =>
    simp only [exprs, List.forall_mem_cons] at hexprs
    simp [layout, hexprs.1.placed d qualified,
      Expr.placed_layoutCommaSeparated d qualified hexprs.2]
  | inQuery expr query negated => exact absurd hquery (Option.some_ne_none query)
  | existsQuery query negated => exact absurd hquery (Option.some_ne_none query)
  | isNull expr negated =>
    simp only [exprs, List.forall_mem_cons] at hexprs
    simp [layout, hexprs.1.placed d qualified]
  | like kind expr pattern =>
    simp only [exprs, List.forall_mem_cons] at hexprs
    exact PatternMatch.placed_layout d (hexprs.1.placed d qualified)
      (hexprs.2.1.placed d qualified)
  | raw sql => exact Layout.placed_ofText sql

theorem Condition.hasSubquery_comp_laidOut :
    LaidOutCondition.hasSubquery ∘ Condition.laidOut d = Condition.hasSubquery := by
  funext c
  refine Condition.fold_fusion LaidOutCondition.hasSubquery (fun p => ?_) c
  rw [Predicate.hasSubqueryWith_map, Function.id_comp]

theorem Condition.layout_laidOut_of (p : Predicate Condition) (qualified : Bool) :
    ((Condition.of p).laidOut d).layout qualified =
      (p.map (Condition.laidOut d)).layout d qualified := by
  rw [laidOut, fold_of]

theorem Condition.hasSubquery_of (p : Predicate Condition) :
    (Condition.of p).hasSubquery = p.hasSubqueryWith Condition.hasSubquery := by
  rw [hasSubquery, fold_of, Predicate.hasSubqueryWith_map, Function.id_comp]

/-- A condition of a well-scoped template belongs where it stands. It is laid out with aliases, or
it nests no statement. -/
def Condition.IsPlaced (c : Condition) : Prop :=
  ∀ (qualified : Bool) (reach : List Table), c.WellScoped reach →
    (qualified = true ∨ c.hasSubquery = false) →
      Layout.Placed reach qualified ((c.laidOut d).layout qualified)

variable {d} {outer : List Table}

/-- Where tables have no aliases, no condition nests a statement, and there is one table. -/
theorem SelectBody.of_usesAliases_eq_false {b : SelectBody Condition}
    (h : b.usesAliases Condition.hasSubquery = false) :
    (∀ c ∈ b.conditions, c.hasSubquery = false) ∧ b.tables.length ≤ 1 := by
  simp only [usesAliases, Bool.or_eq_false_iff, Bool.not_eq_false', List.isEmpty_iff] at h
  obtain ⟨⟨hjoins, hfilter⟩, hhaving⟩ := h
  constructor
  · rw [Option.any_eq_false] at hfilter hhaving
    intro c hc
    simp only [conditions, hjoins, List.map_nil, List.nil_append, List.mem_append,
      Option.mem_toList] at hc
    rcases hc with hc | hc
    · simpa using hfilter c hc
    · simpa using hhaving c hc
  · cases hsource : b.source? <;> simp [tables, hjoins, hsource]

/-- A well-scoped selection is a body, laid out with aliases or by itself. -/
theorem SelectBody.ScopedWith.isBody {b : SelectBody Condition}
    (h : b.ScopedWith Condition.WellScoped outer) (hplaced : ∀ c ∈ b.conditions, c.IsPlaced d)
    {qualified : Bool}
    (hqualified : qualified = true ∨ b.usesAliases Condition.hasSubquery = false) :
    Layout.IsBody (b.tables ++ outer) qualified ((b.map (Condition.laidOut d)).layout d qualified) ∧
      ((b.map (Condition.laidOut d)).layout d qualified).tables = b.tables ∧
      (qualified = false → b.tables.length ≤ 1) := by
  have hconditions : ∀ c ∈ (b.map (Condition.laidOut d)).conditions,
      Layout.Placed (b.tables ++ outer) qualified (c.layout qualified) := by
    rw [conditions_map, List.forall_mem_map]
    intro c hc
    refine hplaced c hc qualified _ (h.conditions c hc) ?_
    exact hqualified.imp_right fun h => (of_usesAliases_eq_false h).1 c hc
  obtain ⟨hbody, hdeclared⟩ := isBody_layout d h.exprs hconditions
  refine ⟨hbody, hdeclared.trans (b.tables_map _), ?_⟩
  rintro rfl
  exact (of_usesAliases_eq_false (hqualified.resolve_left Bool.false_ne_true)).2

/-- Each part of a well-scoped chain of selections is a body or belongs anywhere. -/
theorem SelectOf.ScopedWith.mem_layout {s : SelectOf Condition}
    (h : s.ScopedWith Condition.WellScoped outer) (hplaced : ∀ c ∈ s.conditions, c.IsPlaced d)
    {outerQualified : Bool} {i : Item}
    (hi : i ∈ (s.map (Condition.laidOut d)).layout d outerQualified) :
    i.Placed [] false ∨ ∃ (tables : List Table) (items : Layout),
      i = .scope (outerQualified || s.usesAliases Condition.hasSubquery) items ∧
      Layout.IsBody (tables ++ outer) (outerQualified || s.usesAliases Condition.hasSubquery)
        items ∧
      items.tables = tables ∧
      ((outerQualified || s.usesAliases Condition.hasSubquery) = false → tables.length ≤ 1) := by
  have hmem := SelectOf.mem_layout d hi
  rw [usesAliases_map, Condition.hasSubquery_comp_laidOut] at hmem
  refine hmem.imp_right ?_
  rintro ⟨b', hb', order, rfl, horder⟩
  rw [bodies_map, List.mem_map] at hb'
  obtain ⟨b, hb, rfl⟩ := hb'
  generalize hqualified : (outerQualified || s.usesAliases Condition.hasSubquery) = qualified
    at horder ⊢
  -- a chain without aliases has no part with aliases
  have hpart : qualified = true ∨ b.usesAliases Condition.hasSubquery = false := by
    cases qualified with
    | true => exact .inl rfl
    | false =>
      have huses := (Bool.or_eq_false_iff.1 hqualified).2
      rw [usesAliases, List.any_eq_false] at huses
      exact .inr (by simpa using huses b hb)
  have hconditions : ∀ c ∈ b.conditions, c.IsPlaced d := by
    intro c hc
    exact hplaced c (List.mem_flatMap.2 ⟨b, hb, hc⟩)
  obtain ⟨hbody, hdeclared, hsingle⟩ := (h.bodies b hb).isBody hconditions hpart
  have horder' : Layout.Placed (b.tables ++ outer) qualified order := by
    rcases horder with rfl | ⟨hunions, hhead, rfl⟩
    · exact Layout.placed_nil
    · have htables : b.tables = s.head.tables := by
        rw [← b.tables_map (Condition.laidOut d), hhead, map_head, SelectBody.tables_map]
      rw [map_unions, List.map_eq_nil_iff] at hunions
      rw [htables]
      exact SelectOf.placed_layoutOrder d (h.order hunions)
  refine ⟨b.tables, _, rfl, Layout.isBody_append.2 ⟨hbody, horder'.isBody⟩, ?_, hsingle⟩
  rw [Layout.tables_append, hdeclared, horder'.tables_eq_nil, List.append_nil]

/-- A nested selection that is well scoped belongs into the body around it. -/
theorem StatementOf.ScopedWith.placed {query : StatementOf Condition}
    (h : query.ScopedWith Condition.WellScoped outer) (hselection : query.isSelection)
    (hplaced : ∀ c ∈ query.conditions, c.IsPlaced d) :
    Layout.Placed outer true ((query.map (Condition.laidOut d)).layoutShape d true) := by
  cases query with
  | select s =>
    intro i hi
    rcases SelectOf.ScopedWith.mem_layout h hplaced hi with hi | ⟨tables, items, rfl, hbody, ht, -⟩
    · exact hi.anywhere outer true
    · rw [Bool.true_or] at hbody ⊢
      exact hbody.placed_scope ht
  | _ => exact absurd hselection Bool.false_ne_true

/-- The conditions of a well-scoped template belong where they stand. -/
theorem Condition.placed_laidOut (c : Condition) : c.IsPlaced d := by
  induction c using Condition.induction with
  | h p ih =>
    intro qualified reach hscoped hqualified
    rw [wellScoped_of] at hscoped
    rw [hasSubquery_of] at hqualified
    rw [layout_laidOut_of]
    cases p with
    | inQuery expr query negated =>
      obtain ⟨hexpr, hselection, hquery⟩ := hscoped
      obtain rfl : qualified = true := hqualified.resolve_right Bool.true_eq_false.mp
      simp [Predicate.map, Predicate.layout, hexpr.placed d true, hquery.placed hselection ih]
    | existsQuery query negated =>
      obtain ⟨hselection, hquery⟩ := hscoped
      obtain rfl : qualified = true := hqualified.resolve_right Bool.true_eq_false.mp
      simp [Predicate.map, Predicate.layout, hquery.placed hselection ih]
    | _ =>
      -- no statement stands at this level, so only the conditions below may nest one
      obtain ⟨hexprs, hchildren⟩ := hscoped
      refine Predicate.placed_layout d rfl hexprs ?_
      rw [Predicate.children_map, List.forall_mem_map]
      intro c hc
      refine ih c hc qualified reach (hchildren c hc) ?_
      exact hqualified.imp_right fun h => Predicate.eq_false_of_hasSubqueryWith h c hc

end Conditions

end TypedSql
