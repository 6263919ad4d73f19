import TypedSql.Proofs.BuilderStages
import TypedSql.Proofs.Skeleton
/-!
# Removals with joins

SQL Server removes the rows that are left of a chain of joins, each with its own condition.
PostgreSQL has no joins there: it combines the table with all others at once and looks at one
condition, the conjunction of all. In three-valued logic a conjunction is true if both sides are,
so the same combinations of rows qualify, as long as no condition of a join is about tables that
are joined after it.

## Main definitions

- `Truth`, `Interpretation`: what conditions say of combinations of rows.
- `Removal`: the two forms; `Removal.fragment`, `Removal.combinations`, `Removal.removes`.
- `DeleteOf.removal`, `DeleteOf.spelled`: the form that a dialect gives to a statement.

## Main statements

- `StatementOf.render_delete`: what is written for a statement.
- `Interpretation.admits_all?`, `Interpretation.foldl_joined`: conditions as one, and joins as a
  product that is filtered.
- `DeleteOf.combinations_eq`: the same combinations qualify.
- `removals_with_joins_agree`: the two forms of a statement that was built.
-/

namespace TypedSql

section Truth

/-- The truth values of conditions; `NULL` operands make one unknown. -/
inductive Truth where
  | yes
  | no
  | unknown
deriving DecidableEq

namespace Truth

def and : Truth → Truth → Truth
  | no, _ => no
  | _, no => no
  | yes, yes => yes
  | _, _ => unknown

def or : Truth → Truth → Truth
  | yes, _ => yes
  | _, yes => yes
  | no, no => no
  | _, _ => unknown

def not : Truth → Truth
  | yes => no
  | no => yes
  | unknown => unknown

theorem and_eq_yes_iff {t u : Truth} : t.and u = yes ↔ t = yes ∧ u = yes := by
  cases t <;> cases u <;> decide

end Truth

/-- What conditions say of combinations of rows, with the connectives of three-valued logic. A
combination has a row of the first table, and after it one of each table that is joined, in
order. -/
structure Interpretation (ρ : Type) where
  truth : Condition → List ρ → Truth
  truth_and : ∀ left right rows,
    truth (left.and right) rows = (truth left rows).and (truth right rows)
  truth_or : ∀ left right rows, truth (left.or right) rows = (truth left rows).or (truth right rows)
  truth_not : ∀ inner rows, truth inner.not rows = (truth inner rows).not

namespace Interpretation

variable {ρ : Type}

/-- One level of a condition, given what the other predicates say. -/
def level (atoms : Predicate (List ρ → Truth) → List ρ → Truth) :
    Predicate (List ρ → Truth) → List ρ → Truth
  | .and left right => fun rows => (left rows).and (right rows)
  | .or left right => fun rows => (left rows).or (right rows)
  | .not inner => fun rows => (inner rows).not
  | p => atoms p

/-- What the predicates say determines what conditions say. -/
def ofAtoms (atoms : Predicate (List ρ → Truth) → List ρ → Truth) : Interpretation ρ where
  truth := Condition.fold (level atoms)
  truth_and left right rows := by
    rw [Condition.and, Condition.fold_of]
    rfl
  truth_or left right rows := by
    rw [Condition.or, Condition.fold_of]
    rfl
  truth_not inner rows := by
    rw [Condition.not, Condition.fold_of]
    rfl

variable (I : Interpretation ρ)

/-- Only what is true holds. -/
def holds (c : Condition) (rows : List ρ) : Bool := I.truth c rows = .yes

/-- A missing condition admits every combination. -/
def admits (c? : Option Condition) (rows : List ρ) : Bool := c?.all (I.holds · rows)

/-- The condition is about the first tables only. -/
def IsAboutFirst (count : Nat) (c : Condition) : Prop :=
  ∀ rows, I.truth c rows = I.truth c (rows.take count)

theorem holds_and (left right : Condition) (rows : List ρ) :
    I.holds (left.and right) rows = (I.holds left rows && I.holds right rows) := by
  simp [holds, I.truth_and, Truth.and_eq_yes_iff]

/-- A conjunction admits what each of its conditions admits. -/
theorem admits_all? (cs : List Condition) (rows : List ρ) :
    I.admits (Condition.all? cs) rows = cs.all (I.holds · rows) := by
  cases cs with
  | nil => rfl
  | cons c rest =>
    -- the conjunction is nested to the left, so its first condition collects the others
    induction rest generalizing c with
    | nil => simp [admits, Condition.all?]
    | cons next rest ih =>
      calc I.admits (Condition.all? (c :: next :: rest)) rows
        _ = I.admits (Condition.all? (c.and next :: rest)) rows := rfl
        _ = (c.and next :: rest).all (I.holds · rows) := ih (c.and next)
        _ = (c :: next :: rest).all (I.holds · rows) := by simp [I.holds_and, Bool.and_assoc]

theorem holds_append {count : Nat} {c : Condition} (h : I.IsAboutFirst count c) {rows : List ρ}
    (hrows : count ≤ rows.length) (row : ρ) : I.holds c (rows ++ [row]) = I.holds c rows := by
  rw [holds, holds, h, List.take_append_of_le_length hrows, ← h]

end Interpretation

end Truth

section Combinations

variable {ρ : Type}

/-- Each combination with each row of one more table. -/
def extended (combos : List (List ρ)) (more : List ρ) : List (List ρ) :=
  combos.flatMap fun rows => more.map fun row => rows ++ [row]

theorem length_of_mem_extended {combos : List (List ρ)} {more : List ρ} {count : Nat}
    (h : ∀ rows ∈ combos, count ≤ rows.length) :
    ∀ rows ∈ extended combos more, count + 1 ≤ rows.length := by
  intro rows hrows
  obtain ⟨before, hbefore, hrows⟩ := List.mem_flatMap.1 hrows
  obtain ⟨row, -, rfl⟩ := List.mem_map.1 hrows
  simpa using h before hbefore

variable (I : Interpretation ρ) (rowsOf : Table → List ρ)

/-- Each combination with each row of one more table that the condition holds of. -/
def Interpretation.joined (combos : List (List ρ)) (j : Join Condition) : List (List ρ) :=
  (extended combos (rowsOf j.table)).filter (I.holds j.on)

variable {I} {count : Nat} {combos : List (List ρ)}

/-- A condition that is not about the next table can be looked at before or after. -/
theorem Interpretation.IsAboutFirst.extended_filter {c : Condition} (h : I.IsAboutFirst count c)
    (hcombos : ∀ rows ∈ combos, count ≤ rows.length) (more : List ρ) :
    extended (combos.filter (I.holds c)) more = (extended combos more).filter (I.holds c) := by
  induction combos with
  | nil => rfl
  | cons rows combos ih =>
    obtain ⟨hrows, hcombos⟩ := List.forall_mem_cons.1 hcombos
    have hmore : (more.map fun row => rows ++ [row]).filter (I.holds c) =
        if I.holds c rows then more.map fun row => rows ++ [row] else [] := by
      rw [List.filter_map, Function.comp_def]
      simp only [I.holds_append h hrows]
      cases I.holds c rows <;> simp
    have ih := ih hcombos
    simp only [extended, List.flatMap_cons, List.filter_append, hmore] at ih ⊢
    rw [← ih, List.filter_cons]
    cases I.holds c rows <;> rfl

/-- So it can be looked at before or after any number of other tables. -/
theorem Interpretation.IsAboutFirst.foldl_extended_filter {c : Condition}
    (h : I.IsAboutFirst count c) (hcombos : ∀ rows ∈ combos, count ≤ rows.length)
    (others : List (List ρ)) :
    others.foldl extended (combos.filter (I.holds c)) =
      (others.foldl extended combos).filter (I.holds c) := by
  induction others generalizing combos with
  | nil => rfl
  | cons more others ih =>
    rw [List.foldl_cons, List.foldl_cons, h.extended_filter hcombos]
    exact ih fun rows hrows => Nat.le_of_succ_le (length_of_mem_extended hcombos rows hrows)

/-- Joins keep what is left of all combinations when every condition is looked at in the end. -/
theorem Interpretation.foldl_joined {joins : List (Join Condition)}
    (hcombos : ∀ rows ∈ combos, count ≤ rows.length)
    (hjoins : ∀ i (j : Join Condition), joins[i]? = some j →
      I.IsAboutFirst (count + 1 + i) j.on) :
    joins.foldl (I.joined rowsOf) combos =
      ((joins.map fun j => rowsOf j.table).foldl extended combos).filter fun rows =>
        (joins.map Join.on).all (I.holds · rows) := by
  induction joins generalizing combos count with
  | nil => simp
  | cons j joins ih =>
    have hextended : ∀ rows ∈ extended combos (rowsOf j.table), count + 1 ≤ rows.length :=
      length_of_mem_extended hcombos
    have hrest : ∀ i (k : Join Condition), joins[i]? = some k →
        I.IsAboutFirst (count + 1 + 1 + i) k.on := by
      intro i k hk
      rw [Nat.add_assoc _ 1 i, Nat.add_comm 1 i]
      exact hjoins (i + 1) k hk
    have hfirst : I.IsAboutFirst (count + 1) j.on := hjoins 0 j rfl
    calc (j :: joins).foldl (I.joined rowsOf) combos
      _ = joins.foldl (I.joined rowsOf) (I.joined rowsOf combos j) := rfl
      _ = ((joins.map fun j => rowsOf j.table).foldl extended (I.joined rowsOf combos j)).filter
            fun rows => (joins.map Join.on).all (I.holds · rows) :=
        ih (fun rows hrows => hextended rows (List.mem_of_mem_filter hrows)) hrest
      _ = _ := by
        rw [Interpretation.joined, hfirst.foldl_extended_filter hextended, List.filter_filter]
        simp [Bool.and_comm]

end Combinations

section Forms

/-- How a statement says which rows it removes. -/
inductive Removal where
  /-- The table is joined with others, one after the other. -/
  | chain (table : Table) (joins : List (Join Condition)) (filter? : Option Condition)
  /-- The table is combined with all others, before one condition is looked at. -/
  | product (table : Table) (others : List Table) (filter? : Option Condition)

namespace Removal

def filter? : Removal → Option Condition
  | chain _ _ filter? => filter?
  | product _ _ filter? => filter?

def whereClause (d : Dialect) (qualified : Bool) : Option Condition → Fragment
  | none => []
  | some c => .ofText " WHERE " ++ c.render d qualified

/-- What is written of the rows. The table itself is declared again in a chain if it has an
alias. -/
def fragment (d : Dialect) (qualified : Bool) : Removal → Fragment
  | chain table joins filter? =>
    .ofText (if qualified then " FROM " ++ d.tableReference true table else "")
      ++ (joins.flatMap fun j =>
        Fragment.ofText (" INNER JOIN " ++ d.tableReference true j.table ++ " ON ")
          ++ j.on.render d true)
      ++ whereClause d qualified filter?
  | product _ others filter? =>
    .ofText (if others.isEmpty then "" else
      " USING " ++ commaJoined (others.map (d.tableReference true)))
      ++ whereClause d qualified filter?

variable {ρ : Type} (I : Interpretation ρ) (rowsOf : Table → List ρ)

/-- The combinations of rows that qualify. -/
def combinations : Removal → List (List ρ)
  | chain table joins filter? =>
    (joins.foldl (I.joined rowsOf) ((rowsOf table).map ([·]))).filter (I.admits filter?)
  | product table others filter? =>
    ((others.map rowsOf).foldl extended ((rowsOf table).map ([·]))).filter (I.admits filter?)

/-- A row is removed if it is in a combination that qualifies. -/
def removes (r : Removal) (row : ρ) : Prop :=
  ∃ rows ∈ r.combinations I rowsOf, rows.head? = some row

end Removal

namespace DeleteOf

/-- The form that a dialect gives to a statement. In PostgreSQL the conditions of the joins, in
their order, come before the one of the statement. -/
def removal (d : Dialect) (s : Delete) : Removal :=
  match d with
  | .sqlServer => .chain s.table s.joins s.filter?
  | .postgres => .product s.table (s.joins.map Join.table)
      (Condition.all? (s.joins.map Join.on ++ s.filter?.toList))

/-- What is written for a statement, around the rows that it removes. -/
def spelled (d : Dialect) (s : Delete) : Fragment :=
  let qualified := s.usesAliases Condition.hasSubquery
  let rows := (s.removal d).fragment d qualified
  match d with
  | .sqlServer => .ofText (s.target d qualified) ++ outputClause "DELETED" s.returning ++ rows
  | .postgres => .ofText (s.target d qualified) ++ rows ++ returningClause qualified s.returning

/-- PostgreSQL writes no condition if there are neither joins nor a condition of the statement. -/
theorem filter?_removal_eq_none_iff (s : Delete) :
    (s.removal .postgres).filter? = none ↔ s.joins = [] ∧ s.filter? = none := by
  obtain ⟨table, joins, filter?, returning⟩ := s
  cases joins <;> cases filter? <;> simp [removal, Removal.filter?, Condition.all?]

/-- Joined tables have aliases. -/
theorem joins_eq_nil_of_usesAliases (s : Delete) (h : s.usesAliases Condition.hasSubquery = false) :
    s.joins = [] := by
  rw [usesAliases, Bool.or_eq_false_iff] at h
  simpa using h.1

/-- The same combinations qualify in both forms. -/
theorem combinations_eq {ρ : Type} {I : Interpretation ρ} (rowsOf : Table → List ρ) {s : Delete}
    (h : ∀ i (j : Join Condition), s.joins[i]? = some j → I.IsAboutFirst (i + 2) j.on) :
    (s.removal .postgres).combinations I rowsOf = (s.removal .sqlServer).combinations I rowsOf := by
  have hcombos : ∀ rows ∈ (rowsOf s.table).map ([·]), 1 ≤ rows.length := by simp
  have hjoins : ∀ i (j : Join Condition), s.joins[i]? = some j →
      I.IsAboutFirst (1 + 1 + i) j.on := by
    intro i j hj
    rw [Nat.add_comm]
    exact h i j hj
  have hadmits : ∀ rows, I.admits (Condition.all? (s.joins.map Join.on ++ s.filter?.toList)) rows =
      ((s.joins.map Join.on).all (I.holds · rows) && I.admits s.filter? rows) := by
    intro rows
    rw [I.admits_all?, List.all_append]
    cases s.filter? <;> simp [Interpretation.admits]
  rw [removal, removal, Removal.combinations, Removal.combinations,
    I.foldl_joined rowsOf hcombos hjoins, List.filter_filter, List.map_map]
  exact List.filter_congr fun rows _ => by rw [hadmits, Bool.and_comm]

end DeleteOf

end Forms

section Texts

variable (d : Dialect)

theorem Condition.hasSubquery_comp_rendered :
    RenderedCondition.hasSubquery ∘ Condition.rendered d = Condition.hasSubquery := by
  funext c
  refine Condition.fold_fusion RenderedCondition.hasSubquery (fun p => ?_) c
  rw [Predicate.hasSubqueryWith_map, Function.id_comp]

theorem RenderedCondition.all?_rendered (cs : List Condition) :
    all? (cs.map (Condition.rendered d)) = (Condition.all? cs).map (Condition.rendered d) := by
  have hand : ∀ left right : Condition,
      (left.rendered d).and (right.rendered d) = (left.and right).rendered d := by
    intro left right
    symm
    rw [Condition.and, Condition.rendered, Condition.fold_of]
    rfl
  cases cs with
  | nil => rfl
  | cons c rest =>
    induction rest generalizing c with
    | nil => rfl
    | cons next rest ih => simpa [all?, Condition.all?, hand] using ih (c.and next)

theorem RenderedCondition.clause_rendered (qualified : Bool) (c? : Option Condition) :
    clause " WHERE " qualified (c?.map (Condition.rendered d)) =
      Removal.whereClause d qualified c? := by
  cases c? <;> rfl

theorem renderJoins_rendered {joins : List (Join Condition)} (h : ∀ j ∈ joins, j.kind = .inner) :
    renderJoins d true (joins.map (Join.map (Condition.rendered d))) = joins.flatMap fun j =>
      Fragment.ofText (" INNER JOIN " ++ d.tableReference true j.table ++ " ON ")
        ++ j.on.render d true := by
  rw [renderJoins, List.flatMap_map]
  refine List.flatMap_congr fun j hj => ?_
  simp only [Join.map, h j hj]
  rfl

/-- What is written for a statement with joins that drop rows without a partner. -/
theorem StatementOf.render_delete {s : Delete} (h : ∀ j ∈ s.joins, j.kind = .inner) :
    (delete s).render d = s.spelled d := by
  have hqualified : (s.map (Condition.rendered d)).usesAliases RenderedCondition.hasSubquery =
      s.usesAliases Condition.hasSubquery := by
    rw [DeleteOf.usesAliases_map, Condition.hasSubquery_comp_rendered]
  change (s.map (Condition.rendered d)).render d = _
  cases d with
  | sqlServer =>
    simp only [DeleteOf.render, DeleteOf.spelled, DeleteOf.removal, Removal.fragment, hqualified,
      DeleteOf.target_map, DeleteOf.sourceClause_map, DeleteOf.map_joins, DeleteOf.map_filter?,
      DeleteOf.map_returning, RenderedCondition.clause_rendered, renderJoins_rendered _ h]
    cases haliases : s.usesAliases Condition.hasSubquery with
    | true => simp [DeleteOf.sourceClause]
    | false => simp [DeleteOf.sourceClause, s.joins_eq_nil_of_usesAliases haliases]
  | postgres =>
    have hons : (s.joins.map (Join.map (Condition.rendered .postgres))).map Join.on ++
          (s.filter?.map (Condition.rendered .postgres)).toList =
        (s.joins.map Join.on ++ s.filter?.toList).map (Condition.rendered .postgres) := by
      cases s.filter? <;> simp [Join.map, Function.comp_def]
    simp only [DeleteOf.render, DeleteOf.spelled, DeleteOf.removal, Removal.fragment, hqualified,
      DeleteOf.target_map, DeleteOf.sourceClause_map, DeleteOf.map_joins, DeleteOf.map_filter?,
      DeleteOf.map_returning, hons, RenderedCondition.all?_rendered,
      RenderedCondition.clause_rendered]
    simp [DeleteOf.sourceClause, Function.comp_def]

end Texts

section Builders

/-- The join that a call adds to a removal. -/
def BuilderCall.join? : BuilderCall → Option (Join Condition)
  | edit (.join _ table on) => some ⟨.inner, table, on⟩
  | _ => none

/-- The condition that a call sets. -/
def BuilderCall.condition? : BuilderCall → Option Condition
  | edit (.filter c) => some c
  | _ => none

/-- A builder has taken the joins and the condition of a removal from the calls so far. -/
structure Builder.Removes (b : Builder) (table : Table) (joins : List (Join Condition))
    (conditions : List Condition) (s : Delete) : Prop where
  statement_eq : b.statement = .delete s
  table_eq : s.table = table
  joins_eq : s.joins = joins
  filter?_eq : s.filter?.toList = conditions

namespace Builder.Removes

variable {b b' : Builder} {table : Table} {joins : List (Join Condition)}
  {conditions : List Condition} {s : Delete}

theorem edit (h : b.Removes table joins conditions s) {e : Edit Condition}
    (hedit : b.edit? e = some (.ok b')) :
    ∃ s', b'.Removes table (joins ++ (BuilderCall.edit e).join?.toList)
      (conditions ++ (BuilderCall.edit e).condition?.toList) s' := by
  obtain ⟨hstatement, htable, hjoins, hfilter⟩ := h
  obtain ⟨stage, -, hb'⟩ := Option.map_eq_some_iff.1 hedit
  rw [hstatement] at hb'
  cases e with
  | join kind other on =>
    cases hb'
    exact ⟨_, rfl, htable, by simp [hjoins, BuilderCall.join?],
      by simpa [BuilderCall.condition?] using hfilter⟩
  | filter c =>
    cases hold : s.filter? with
    | some old => simp [hold, Except.map] at hb'
    | none =>
      simp only [StatementOf.edit_delete, DeleteOf.edit_filter, hold] at hb'
      cases hb'
      rw [hold] at hfilter
      exact ⟨_, rfl, htable, by simpa [BuilderCall.join?] using hjoins,
        by simp [← hfilter, BuilderCall.condition?]⟩
  | _ =>
    cases hb'
    exact ⟨_, rfl, htable, by simpa [BuilderCall.join?] using hjoins,
      by simpa [BuilderCall.condition?] using hfilter⟩

/-- A call adds its join, or sets its condition. -/
theorem call (h : b.Removes table joins conditions s) {c : BuilderCall}
    (hcall : b.call? c = some (.ok b')) :
    ∃ s', b'.Removes table (joins ++ c.join?.toList) (conditions ++ c.condition?.toList) s' := by
  cases c with
  | edit e => exact h.edit hcall
  | returning selector =>
    have hselector : { b with selector? := some selector }.Removes table joins conditions s :=
      ⟨h.statement_eq, h.table_eq, h.joins_eq, h.filter?_eq⟩
    exact hselector.edit hcall

theorem calls (h : b.Removes table joins conditions s) {cs : List BuilderCall}
    (hcalls : b.calls? cs = some (.ok b')) :
    ∃ s', b'.Removes table (joins ++ cs.filterMap BuilderCall.join?)
      (conditions ++ cs.filterMap BuilderCall.condition?) s' := by
  induction cs generalizing b joins conditions s with
  | nil =>
    cases hcalls
    exact ⟨s, by simpa using h⟩
  | cons c cs ih =>
    rw [calls?] at hcalls
    split at hcalls
    · cases hcalls
    · cases hcalls
    · next hcall =>
      obtain ⟨s₁, h₁⟩ := h.call hcall
      obtain ⟨s', h'⟩ := ih h₁ hcalls
      refine ⟨s', ?_⟩
      cases hjoin : c.join? <;> cases hcondition : c.condition? <;>
        simpa [hjoin, hcondition] using h'

end Builder.Removes

theorem Builder.statement_of_build? {b : Builder} {prepared : Bool} {built : Built}
    (h : b.build? prepared = some (.ok built)) : built.statement = b.statement := by
  rw [build?] at h
  split at h
  · have h := Option.some.inj h
    generalize (if prepared then b.statement.validate else b.statement.checkBuildable) = check at h
    cases check with
    | error e => cases h
    | ok _ =>
      cases h
      cases b.selector? <;> rfl
  · cases h

/-- A removal that was built has the joins that were asked for, in order, and at most one condition
besides. Both dialects write it as their form says, with its parameters and without. PostgreSQL's
form combines the joined tables in order, on the conjunction of the conditions of all joins and the
one of the statement; there is none if there are neither joins nor a condition. For any
interpretation by which each join is about the tables so far, both forms let the same combinations
of rows qualify and remove the same rows. -/
theorem removals_with_joins_agree {table : Table} {calls : List BuilderCall} {b : Builder}
    (h : (Builder.deleteFrom table).calls? calls = some (.ok b)) {prepared : Bool} {built : Built}
    (hbuilt : b.build? prepared = some (.ok built)) :
    ∃ s : Delete, built.statement = .delete s ∧ s.table = table ∧
      s.joins = calls.filterMap BuilderCall.join? ∧
      s.filter?.toList = calls.filterMap BuilderCall.condition? ∧
      (∀ d, (built.statement.compile d .bind).sql = (s.spelled d).boundSql d ∧
        (built.statement.compile d .inline).sql = (s.spelled d).inlineSql d) ∧
      s.removal .sqlServer = .chain table s.joins s.filter? ∧
      s.removal .postgres = .product table (s.joins.map Join.table)
        (Condition.all? (s.joins.map Join.on ++ s.filter?.toList)) ∧
      ((s.removal .postgres).filter? = none ↔ s.joins = [] ∧ s.filter? = none) ∧
      ∀ {ρ : Type} (I : Interpretation ρ) (rowsOf : Table → List ρ),
        (∀ i (j : Join Condition), s.joins[i]? = some j → I.IsAboutFirst (i + 2) j.on) →
          (s.removal .postgres).combinations I rowsOf =
            (s.removal .sqlServer).combinations I rowsOf ∧
          ∀ row, (s.removal .postgres).removes I rowsOf row ↔
            (s.removal .sqlServer).removes I rowsOf row := by
  have hstart : (Builder.deleteFrom table).Removes table [] [] { table } := ⟨rfl, rfl, rfl, rfl⟩
  obtain ⟨s, hstatement, htable, hjoins, hfilter⟩ := hstart.calls h
  rw [← Builder.statement_of_build? hbuilt] at hstatement
  have hinner : ∀ j ∈ s.joins, j.kind = .inner := by
    intro j hj
    rw [hjoins, List.nil_append] at hj
    obtain ⟨c, -, hc⟩ := List.mem_filterMap.1 hj
    cases c with
    | edit e =>
      cases e <;> cases hc
      rfl
    | returning selector => cases hc
  refine ⟨s, hstatement, htable, hjoins, hfilter, fun d => ?_, ?_, ?_,
    s.filter?_removal_eq_none_iff, fun I rowsOf hI => ?_⟩
  · rw [hstatement, StatementOf.compile_bind, StatementOf.compile_inline,
      StatementOf.render_delete d hinner]
    exact ⟨rfl, rfl⟩
  · rw [← htable]
    rfl
  · rw [← htable]
    rfl
  · have hcombinations := DeleteOf.combinations_eq rowsOf hI
    exact ⟨hcombinations, fun row => by rw [Removal.removes, Removal.removes, hcombinations]⟩

/-- A removal of invoices with their payments, and with the reminders after them. -/
def removalOfInvoices : List BuilderCall :=
  let payments : Table := ⟨none, "Payment", false, ⟨0, 1⟩⟩
  let reminders : Table := ⟨none, "Reminder", false, ⟨0, 2⟩⟩
  let number (table : Table) : Expr := .column ⟨table, "number", false, .int⟩
  [.edit (.join .inner payments (.of (.compare .eq (number payments) (.raw "a.number")))),
    .edit (.join .inner reminders (.of (.compare .lt (number payments) (number reminders)))),
    .edit (.filter (.of (.isNull (number reminders) true)))]

/-- Rows are numbers here. It is unknown whether a payment without a number comes before a
reminder. -/
def numbered : Interpretation Nat := .ofAtoms fun
  | .compare .eq _ _, invoice :: payment :: _ => if payment = invoice then .yes else .no
  | .compare .lt _ _, _ :: payment :: reminder :: _ =>
    if payment = 0 then .unknown else if payment < reminder then .yes else .no
  | .isNull _ _, _ => .yes
  | _, _ => .unknown

theorem removes_removalOfInvoices :
    let rowsOf (table : Table) : List Nat :=
      if table.name = "Invoice" then [0, 1, 2]
      else if table.name = "Payment" then [2, 1, 0] else [2]
    ∃ b built s, (Builder.deleteFrom ⟨none, "Invoice", false, ⟨0, 0⟩⟩).calls? removalOfInvoices =
        some (.ok b) ∧ b.build? false = some (.ok built) ∧ built.statement = .delete s ∧
      (s.removal .sqlServer).combinations numbered rowsOf = [[1, 1, 2]] ∧
      (s.removal .postgres).combinations numbered rowsOf = [[1, 1, 2]] ∧
      (s.removal .postgres).removes numbered rowsOf 1 ∧
      ¬ (s.removal .postgres).removes numbered rowsOf 0 := by
  intro rowsOf
  have hcalls : (Builder.deleteFrom ⟨none, "Invoice", false, ⟨0, 0⟩⟩).calls? removalOfInvoices =
      some (.ok _) := rfl
  obtain ⟨s, hs, -, -, -, -, -, -, -, hforms⟩ := @removals_with_joins_agree _ _ _ hcalls false _ rfl
  have hsame := hforms numbered rowsOf
  cases hs
  have habout : ∀ i (j : Join Condition), (removalOfInvoices.filterMap BuilderCall.join?)[i]? =
      some j → numbered.IsAboutFirst (i + 2) j.on := by
    rintro (_ | _ | i) j hj
    · cases hj
      rintro (_ | ⟨_, _ | ⟨_, rows⟩⟩) <;> rfl
    · cases hj
      rintro (_ | ⟨_, _ | ⟨_, _ | ⟨_, rows⟩⟩⟩) <;> rfl
    · cases hj
  obtain ⟨hcombinations, hremoves⟩ := hsame habout
  refine ⟨_, _, _, rfl, rfl, rfl, rfl, hcombinations, ?_, ?_⟩
  · exact (hremoves 1).2 ⟨[1, 1, 2], List.mem_singleton_self _, rfl⟩
  · rw [hremoves 0]
    rintro ⟨rows, hrows, hhead⟩
    obtain rfl : rows = [1, 1, 2] := List.mem_singleton.1 hrows
    cases hhead

end Builders

end TypedSql
