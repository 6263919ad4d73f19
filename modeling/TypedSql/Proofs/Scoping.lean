import TypedSql.Proofs.Traversal
/-!
# Well-scoped templates

A template is well scoped if each column that it mentions belongs to a table of the body that
mentions it or of a body around it. Columns that are assigned or returned are left out, for they
name a column of one known table.

## Main definitions

- `Expr.columns`, `Expr.BelongsTo`: the columns of an expression are those of given tables.
- `StatementOf.ScopedWith`: the columns of one level belong to its tables or to given ones.
- `Condition.WellScoped`, `StatementOf.WellScoped`: they do at each level.

## Main statements

- `Condition.wellScoped_of`: one level of a well-scoped condition.

## Design notes

Whether the conditions of a level are well scoped is a parameter, so that one definition serves
the fold over conditions and the statement at the top.
-/

namespace TypedSql

section Columns

namespace Expr

mutual

/-- The columns that an expression mentions. A count of all rows mentions none. -/
def columns : Expr → List Column
  | column c => [c]
  | value _ _ => []
  | slot _ _ => []
  | call function args => if function = .countAll then [] else columnsOfList args
  | arithmetic _ left right => left.columns ++ right.columns
  | raw _ => []

/-- The columns that a list of expressions mentions. -/
def columnsOfList : List Expr → List Column
  | [] => []
  | e :: rest => e.columns ++ columnsOfList rest

end

/-- Each column of the expression belongs to one of the tables. -/
def BelongsTo (tables : List Table) (e : Expr) : Prop :=
  ∀ c ∈ e.columns, ∃ t ∈ tables, c.table.sameInstance t

end Expr

theorem Table.aliasName_eq {t t' : Table} (h : t.sameInstance t') : t.aliasName = t'.aliasName := by
  have hid : t.id = t'.id := by simpa [sameInstance] using h
  rw [aliasName, aliasName, hid]

end Columns

section WellScoped

variable {γ δ : Type}

/-- The tables of a selection. -/
def SelectBody.tables (b : SelectBody γ) : List Table := b.source?.toList ++ b.joins.map Join.table

/-- The tables of an update. -/
def UpdateOf.tables (s : UpdateOf γ) : List Table := s.table :: s.sources

/-- The tables of a removal. -/
def DeleteOf.tables (s : DeleteOf γ) : List Table := s.table :: s.joins.map Join.table

variable (isScoped : γ → List Table → Prop) (outer : List Table)

/-- The columns of a selection belong to its tables or to those around it. -/
structure SelectBody.ScopedWith (b : SelectBody γ) : Prop where
  exprs : ∀ e ∈ b.exprs, e.BelongsTo (b.tables ++ outer)
  conditions : ∀ c ∈ b.conditions, isScoped c (b.tables ++ outer)

/-- The columns of each selection of a chain do, and so do those of the order of a single one. -/
structure SelectOf.ScopedWith (s : SelectOf γ) : Prop where
  bodies : ∀ b ∈ s.bodies, b.ScopedWith isScoped outer
  order : s.unions = [] → ∀ term ∈ s.orderBy, term.expr.BelongsTo (s.head.tables ++ outer)

/-- The columns of an update do, those that it assigns and returns left alone. -/
structure UpdateOf.ScopedWith (s : UpdateOf γ) : Prop where
  values : ∀ a ∈ s.assignments, a.value.BelongsTo (s.tables ++ outer)
  filter : ∀ c ∈ s.filter?, isScoped c (s.tables ++ outer)

/-- The columns of a removal do, those that it returns left alone. -/
structure DeleteOf.ScopedWith (s : DeleteOf γ) : Prop where
  joins : ∀ j ∈ s.joins, isScoped j.on (s.tables ++ outer)
  filter : ∀ c ∈ s.filter?, isScoped c (s.tables ++ outer)

/-- A selection, an update or a removal whose columns belong to its tables or to those around
it. -/
def StatementOf.ScopedWith : StatementOf γ → Prop
  | .select s => s.ScopedWith isScoped outer
  | .insert _ => False
  | .update s => s.ScopedWith isScoped outer
  | .delete s => s.ScopedWith isScoped outer
  | .truncate _ => False

/-- The columns of one level of a condition belong to the tables around it, and a nested statement
is a selection that is well scoped within these. -/
def Predicate.ScopedWith (p : Predicate γ) : Prop :=
  match p with
  | .inQuery expr query _ =>
    expr.BelongsTo outer ∧ query.isSelection ∧ query.ScopedWith isScoped outer
  | .existsQuery query _ => query.isSelection ∧ query.ScopedWith isScoped outer
  | p => (∀ e ∈ p.exprs, e.BelongsTo outer) ∧ ∀ c ∈ p.children, isScoped c outer

section Mapping

variable {isScoped} {outer} (f : δ → γ)

theorem SelectBody.tables_map (b : SelectBody δ) : (b.map f).tables = b.tables := by
  simp [tables, map, Join.map, Function.comp_def]

theorem DeleteOf.tables_map (s : DeleteOf δ) : (s.map f).tables = s.tables := by
  simp [tables, map, Join.map, Function.comp_def]

theorem SelectBody.scopedWith_map {b : SelectBody δ} :
    (b.map f).ScopedWith isScoped outer ↔ b.ScopedWith (isScoped ∘ f) outer := by
  constructor
  · rintro ⟨hexprs, hconditions⟩
    rw [tables_map] at hexprs hconditions
    refine ⟨hexprs, fun c hc => hconditions (f c) ?_⟩
    rw [conditions_map]
    exact List.mem_map_of_mem hc
  · rintro ⟨hexprs, hconditions⟩
    refine ⟨?_, ?_⟩
    · rw [tables_map]
      exact hexprs
    · rw [tables_map, conditions_map]
      exact List.forall_mem_map.2 hconditions

theorem SelectOf.scopedWith_map {s : SelectOf δ} :
    (s.map f).ScopedWith isScoped outer ↔ s.ScopedWith (isScoped ∘ f) outer := by
  constructor
  · rintro ⟨hscoped, horder⟩
    rw [bodies_map] at hscoped
    rw [map_head, SelectBody.tables_map, map_unions, List.map_eq_nil_iff] at horder
    refine ⟨fun b hb => ?_, horder⟩
    exact (SelectBody.scopedWith_map f).1 (hscoped _ (List.mem_map_of_mem hb))
  · rintro ⟨hscoped, horder⟩
    refine ⟨?_, ?_⟩
    · rw [bodies_map, List.forall_mem_map]
      exact fun b hb => (SelectBody.scopedWith_map f).2 (hscoped b hb)
    · rw [map_head, SelectBody.tables_map, map_unions, List.map_eq_nil_iff]
      exact horder

theorem UpdateOf.scopedWith_map {s : UpdateOf δ} :
    (s.map f).ScopedWith isScoped outer ↔ s.ScopedWith (isScoped ∘ f) outer := by
  constructor
  · rintro ⟨hvalues, hfilter⟩
    refine ⟨hvalues, fun c hc => hfilter (f c) ?_⟩
    exact Option.mem_map_of_mem f hc
  · rintro ⟨hvalues, hfilter⟩
    refine ⟨hvalues, fun c hc => ?_⟩
    obtain ⟨c, hmem, rfl⟩ := Option.map_eq_some_iff.1 hc
    exact hfilter c hmem

theorem DeleteOf.scopedWith_map {s : DeleteOf δ} :
    (s.map f).ScopedWith isScoped outer ↔ s.ScopedWith (isScoped ∘ f) outer := by
  constructor
  · rintro ⟨hjoins, hfilter⟩
    rw [tables_map] at hjoins hfilter
    refine ⟨fun j hj => hjoins (j.map f) ?_, fun c hc => hfilter (f c) ?_⟩
    · exact List.mem_map_of_mem hj
    · exact Option.mem_map_of_mem f hc
  · rintro ⟨hjoins, hfilter⟩
    refine ⟨?_, fun c hc => ?_⟩
    · rw [tables_map, map_joins, List.forall_mem_map]
      exact hjoins
    · obtain ⟨c, hmem, rfl⟩ := Option.map_eq_some_iff.1 hc
      rw [tables_map]
      exact hfilter c hmem

theorem StatementOf.scopedWith_map {s : StatementOf δ} :
    (s.map f).ScopedWith isScoped outer ↔ s.ScopedWith (isScoped ∘ f) outer := by
  cases s with
  | select s => exact SelectOf.scopedWith_map f
  | insert s => exact Iff.rfl
  | update s => exact UpdateOf.scopedWith_map f
  | delete s => exact DeleteOf.scopedWith_map f
  | truncate table => exact Iff.rfl

theorem Predicate.scopedWith_map {p : Predicate δ} :
    (p.map f).ScopedWith isScoped outer ↔ p.ScopedWith (isScoped ∘ f) outer := by
  cases p <;>
    simp [ScopedWith, map, exprs, children, StatementOf.isSelection_map, StatementOf.scopedWith_map]

end Mapping

end WellScoped

/-- The columns of a condition, at any depth, belong to the given tables or, where it nests
selections, to the tables of these. -/
def Condition.WellScoped (c : Condition) (outer : List Table) : Prop :=
  c.fold (fun p outer => Predicate.ScopedWith id outer p) outer

theorem Condition.wellScoped_of {p : Predicate Condition} {outer : List Table} :
    (Condition.of p).WellScoped outer ↔ p.ScopedWith Condition.WellScoped outer := by
  rw [WellScoped, fold_of, Predicate.scopedWith_map]
  rfl

/-- A selection, an update or a removal that nests selections only and whose columns, but for those
that are assigned or returned, belong to the tables of their bodies or of the bodies around them. -/
def StatementOf.WellScoped (s : Statement) : Prop := s.ScopedWith Condition.WellScoped []

end TypedSql
