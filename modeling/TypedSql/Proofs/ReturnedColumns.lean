import TypedSql.Proofs.Lexemes
import TypedSql.Proofs.Placement
/-!
# Columns of returned rows

A statement that adds, changes or removes rows can return fields of them. SQL Server wants each
column of these rows behind a word that says which rows are meant, and each column of another table
behind the alias of that table. Only a field that is a column itself gets the word, and it gets it
whatever table it belongs to; within a field, columns stand bare. PostgreSQL tells all of them apart
as it does elsewhere.

## Main definitions

- `Returned`: the table, the rows and the fields of a list of returned fields.
- `Mention`, `Layout.mentions`: the columns that a text mentions, with what qualifies them.
- `Mention.NamesRowOf`: the qualifier says which row the column is read from.

## Main statements

- `StatementOf.layout_eq_returned`: what the list adds to the text of the statement.
- `mentions_layoutOutput`, `mentions_layoutReturning`: how the dialects qualify columns.
- `output_names_rows_iff`: which lists of SQL Server name the rows of all columns.
-/

namespace TypedSql

/-- What a statement returns of the rows that it adds, changes or removes. -/
structure Returned where
  table : Table
  /-- The word for the rows of the table. -/
  rows : String
  fields : List Expr

section Statements

variable {γ : Type}

/-- What a statement returns. Only statements that change rows do. -/
def StatementOf.returned? : StatementOf γ → Option Returned
  | .insert s => some ⟨s.table, "INSERTED", s.returning⟩
  | .update s => some ⟨s.table, "INSERTED", s.returning⟩
  | .delete s => some ⟨s.table, "DELETED", s.returning⟩
  | _ => none

/-- The statement that changes the same rows and returns nothing. -/
def StatementOf.returningNothing : StatementOf γ → StatementOf γ
  | .insert s => .insert { s with returning := [] }
  | .update s => .update { s with returning := [] }
  | .delete s => .delete { s with returning := [] }
  | s => s

/-- The laid-out list, in a statement whose tables have aliases or have none. -/
def Returned.layout (d : Dialect) (aliased : Bool) (r : Returned) : Layout :=
  match d with
  | .sqlServer => layoutOutput r.rows r.fields
  | .postgres => layoutReturning aliased r.fields

theorem StatementOf.rows_of_returned? {s : StatementOf γ} {r : Returned}
    (h : s.returned? = some r) : r.rows = "INSERTED" ∨ r.rows = "DELETED" := by
  cases s <;> cases h
  · exact .inl rfl
  · exact .inl rfl
  · exact .inr rfl

theorem StatementOf.returned?_map {δ : Type} (f : γ → δ) (s : StatementOf γ) :
    (s.map f).returned? = s.returned? := by
  cases s <;> rfl

theorem StatementOf.returningNothing_map {δ : Type} (f : γ → δ) (s : StatementOf γ) :
    (s.map f).returningNothing = s.returningNothing.map f := by
  cases s <;> rfl

theorem StatementOf.usesAliases?_map {δ : Type} (hasSubquery : δ → Bool) (f : γ → δ)
    (s : StatementOf γ) :
    (s.map f).usesAliases? hasSubquery = s.usesAliases? (hasSubquery ∘ f) := by
  cases s with
  | select s => exact congrArg some (s.usesAliases_map hasSubquery f)
  | update s => exact congrArg some (s.usesAliases_map hasSubquery f)
  | delete s => exact congrArg some (s.usesAliases_map hasSubquery f)
  | _ => rfl

theorem StatementOf.layoutShape_eq_returned (d : Dialect) {s : StatementOf LaidOutCondition}
    {r : Returned} (h : s.returned? = some r) {aliased : Bool}
    (haliased : (s.usesAliases? LaidOutCondition.hasSubquery).getD false = aliased) :
    ∃ before after,
      s.layoutShape d false = [.scope aliased (before ++ r.layout d aliased ++ after)] ∧
      s.returningNothing.layoutShape d false = [.scope aliased (before ++ after)] := by
  -- without fields there is no list, so the text around it is that of the other statement
  cases s with
  | insert s =>
    cases h
    cases haliased
    cases d with
    | sqlServer => exact ⟨_, _, rfl, rfl⟩
    | postgres => exact ⟨_, [], by rw [List.append_nil]; rfl, rfl⟩
  | update s =>
    cases h
    cases haliased
    cases d with
    | sqlServer =>
      let qualified := s.usesAliases LaidOutCondition.hasSubquery
      refine ⟨s.layoutTarget .sqlServer qualified
        ++ layoutAssignments .sqlServer qualified s.assignments,
        s.layoutSources .sqlServer qualified
          ++ LaidOutCondition.clause " WHERE " qualified s.filter?, ?_, ?_⟩
      · rw [← List.append_assoc]; rfl
      · rw [← List.append_assoc, ← List.append_nil (_ ++ layoutAssignments _ _ _)]; rfl
    | postgres => exact ⟨_, [], by rw [List.append_nil]; rfl, rfl⟩
  | delete s =>
    cases h
    cases haliased
    cases d with
    | sqlServer =>
      let qualified := s.usesAliases LaidOutCondition.hasSubquery
      refine ⟨s.layoutTarget .sqlServer qualified, s.layoutSources .sqlServer qualified
        ++ (if qualified then layoutJoins true s.joins else [])
        ++ LaidOutCondition.clause " WHERE " qualified s.filter?, ?_, ?_⟩
      · rw [← List.append_assoc, ← List.append_assoc]; rfl
      · rw [← List.append_assoc, ← List.append_assoc, ← List.append_nil (s.layoutTarget _ _)]; rfl
    | postgres => exact ⟨_, [], by rw [List.append_nil]; rfl, rfl⟩
  | select s => cases h
  | truncate table => cases h

/-- The list is what sets the text of a statement apart from that of the statement which returns
nothing. -/
theorem StatementOf.layout_eq_returned (d : Dialect) {s : Statement} {r : Returned}
    (h : s.returned? = some r) {aliased : Bool} (haliased : s.isQualified?.getD false = aliased) :
    ∃ before after,
      s.layout d = [.scope aliased (before ++ r.layout d aliased ++ after)] ∧
      s.returningNothing.layout d = [.scope aliased (before ++ after)] := by
  rw [layout, layout, ← returningNothing_map]
  apply layoutShape_eq_returned
  · rw [returned?_map, h]
  · rw [usesAliases?_map, Condition.hasSubquery_comp_laidOut]
    exact haliased

end Statements

/-- A column in a text, with what qualifies it. -/
structure Mention where
  qualifier? : Option String
  column : Column

/-- What is written for a mention. -/
def Mention.text (d : Dialect) (m : Mention) : String :=
  (m.qualifier?.map (· ++ ".")).getD "" ++ d.identifier m.column.name m.column.enclosed

-- wherever it stands
example (d : Dialect) (role : ColumnRole) (m : Mention) :
    (Item.column role m.qualifier? m.column).write d = SqlWriter.text (m.text d) := rfl

/-- The columns that a text mentions, those in nested bodies left out. -/
def Layout.mentions (l : Layout) : List Mention :=
  l.filterMap fun
    | .column _ qualifier? c => some ⟨qualifier?, c⟩
    | _ => none

/-- A column of the table that is changed stands behind the word for its rows, and a column of
another table behind the alias of that table. -/
def Mention.NamesRowOf (r : Returned) (m : Mention) : Prop :=
  m.qualifier? = some (if m.column.table.sameInstance r.table then r.rows
    else m.column.table.aliasName)

section Mentions

namespace Layout

@[simp]
theorem mentions_append (l l' : Layout) : mentions (l ++ l') = mentions l ++ mentions l' :=
  List.filterMap_append

@[simp]
theorem mentions_ofText (s : String) : mentions (ofText s) = [] := rfl

theorem mentions_parenthesised (l : Layout) : mentions (parenthesised l) = mentions l := by
  simp [parenthesised]

theorem mentions_commaSeparated (ls : List Layout) :
    mentions (commaSeparated ls) = ls.flatMap mentions := by
  cases ls with
  | nil => rfl
  | cons first rest =>
    induction rest generalizing first with
    | nil => simp [commaSeparated]
    | cons next rest ih => simp [commaSeparated_cons_cons, ih next]

theorem mentions_listAfter (opening : String) (ls : List Layout) :
    mentions (listAfter opening ls) = ls.flatMap mentions := by
  cases ls with
  | nil => rfl
  | cons first rest => simp [listAfter, mentions_commaSeparated]

end Layout

variable (d : Dialect) (role : ColumnRole) (qualified : Bool)

/-- The mention of a column behind the alias of its table, or bare. -/
def Column.mention (c : Column) : Mention :=
  ⟨if qualified then some c.table.aliasName else none, c⟩

theorem SqlFunction.mentions_layoutCall (function : SqlFunction) (args : List Layout) :
    (function.layoutCall d args).mentions =
      if function = .countAll then [] else args.flatMap Layout.mentions := by
  cases function <;>
    simp [layoutCall, Layout.mentions_parenthesised, Layout.mentions_commaSeparated]

mutual

theorem Expr.mentions_layout : ∀ e : Expr,
    (e.layout d role qualified).mentions = e.columns.map (Column.mention qualified)
  | .column c => rfl
  | .value type v => rfl
  | .slot index type => rfl
  | .call function args => by
    rw [layout, SqlFunction.mentions_layoutCall, Expr.mentions_layoutList args, columns]
    split <;> rfl
  | .arithmetic op left right => by
    rw [layout, Layout.mentions_parenthesised, Layout.mentions_append, Layout.mentions_append,
      Expr.mentions_layout left, Expr.mentions_layout right, columns, List.map_append,
      Layout.mentions_ofText, List.append_nil]
  | .raw sql => rfl

theorem Expr.mentions_layoutList : ∀ es : List Expr,
    (Expr.layoutList d role qualified es).flatMap Layout.mentions =
      (Expr.columnsOfList es).map (Column.mention qualified)
  | [] => rfl
  | e :: rest => by
    rw [layoutList, List.flatMap_cons, Expr.mentions_layout e, Expr.mentions_layoutList rest,
      columnsOfList, List.map_append]

end

/-- PostgreSQL qualifies the columns of returned fields as it does in conditions and values. -/
theorem mentions_layoutReturning (fields : List Expr) :
    (layoutReturning qualified fields).mentions =
      (fields.flatMap Expr.columns).map (Column.mention qualified) := by
  rw [layoutReturning, Layout.mentions_listAfter, List.flatMap_map, List.map_flatMap]
  exact List.flatMap_congr fun e _ => e.mentions_layout .postgres .returned qualified

/-- A field of SQL Server mentions its columns bare, unless it is a column. -/
def Expr.outputMentions (rows : String) : Expr → List Mention
  | .column c => [⟨some rows, c⟩]
  | e => e.columns.map (Column.mention false)

theorem mentions_layoutOutput (rows : String) (fields : List Expr) :
    (layoutOutput rows fields).mentions = fields.flatMap (Expr.outputMentions rows) := by
  rw [layoutOutput, Layout.mentions_listAfter, List.flatMap_map]
  refine List.flatMap_congr fun e _ => ?_
  cases e with
  | column c => rfl
  | _ => exact Expr.mentions_layout .sqlServer .returned false _

end Mentions

section Rows

/-- The alias of a table begins with an underscore, and the words for rows do not. -/
theorem Table.aliasName_ne_rows (t : Table) {rows : String}
    (h : rows = "INSERTED" ∨ rows = "DELETED") : rows ≠ t.aliasName := by
  intro heq
  have hfirst : rows.toList.head? = some '_' := by
    rw [heq, aliasName, AliasGenerator.aliasOf, String.toList_ofList, List.head?_cons]
  rcases h with rfl | rfl <;> exact absurd hfirst (by decide)

variable {r : Returned}

theorem Expr.outputMentions_namesRowOf_iff (hrows : r.rows = "INSERTED" ∨ r.rows = "DELETED")
    (e : Expr) :
    (∀ m ∈ e.outputMentions r.rows, m.NamesRowOf r) ↔
      ∀ c ∈ e.columns, e = .column c ∧ c.table.sameInstance r.table := by
  by_cases hcolumn : ∃ c, e = .column c
  · obtain ⟨c, rfl⟩ := hcolumn
    have hne := c.table.aliasName_ne_rows hrows
    by_cases hsame : c.table.sameInstance r.table <;>
      simp [outputMentions, columns, Mention.NamesRowOf, hsame, hne]
  · have hbare : e.outputMentions r.rows = e.columns.map (Column.mention false) := by
      cases e with
      | column c => exact absurd ⟨c, rfl⟩ hcolumn
      | _ => rfl
    rw [hbare, List.forall_mem_map]
    refine forall₂_congr fun c _ => iff_of_false ?_ ?_
    · simp [Column.mention, Mention.NamesRowOf]
    · rintro ⟨rfl, -⟩
      exact hcolumn ⟨c, rfl⟩

/-- Bare names are read as far as they go, and a qualifier is read for one only up to its dot. -/
theorem readIdentifier?_text {qualifier? : Option String}
    (h : ∀ q ∈ qualifier?, q = "INSERTED" ∨ q = "DELETED") (c : Column) :
    Dialect.readIdentifier? .sqlServer (Mention.text .sqlServer ⟨qualifier?, c⟩).toList =
      match qualifier? with
      | none => some (c.name.toList, [])
      | some q => some (q.toList, '.' :: (Dialect.identifier .sqlServer c.name c.enclosed).toList)
      := by
  cases qualifier? with
  | none =>
    have hend : FollowsLiteral [] := by simp [FollowsLiteral]
    simpa [Mention.text] using Dialect.readIdentifier?_identifier .sqlServer hend c.name c.enclosed
  | some q =>
    rcases h q rfl with rfl | rfl <;>
      simp [Mention.text, Dialect.readIdentifier?, Dialect.quotes, isNameChar]

theorem Mention.text_eq_text_iff {m m' : Mention}
    (h : ∀ q ∈ m.qualifier?, q = "INSERTED" ∨ q = "DELETED")
    (h' : ∀ q ∈ m'.qualifier?, q = "INSERTED" ∨ q = "DELETED") :
    m.text .sqlServer = m'.text .sqlServer ↔
      m.qualifier? = m'.qualifier? ∧
        Dialect.identifier .sqlServer m.column.name m.column.enclosed =
          Dialect.identifier .sqlServer m'.column.name m'.column.enclosed := by
  obtain ⟨qualifier?, c⟩ := m
  obtain ⟨qualifier'?, c'⟩ := m'
  constructor
  · intro heq
    have hread := readIdentifier?_text h c
    rw [heq, readIdentifier?_text h' c'] at hread
    cases qualifier? with
    | none =>
      cases qualifier'? with
      | none => exact ⟨rfl, by simpa [text] using heq⟩
      | some q' => simp at hread
    | some q =>
      cases qualifier'? with
      | none => simp at hread
      | some q' =>
        simp only [Option.some.injEq, Prod.mk.injEq, List.cons.injEq, String.toList_inj] at hread
        exact ⟨by rw [hread.1], hread.2.2.symm⟩
  · rintro ⟨hqualifier, hname⟩
    simp only at hqualifier hname
    rw [text, text, hqualifier, hname]

theorem qualifier_of_mem_mentions {rows : String} {fields : List Expr} {m : Mention}
    (hm : m ∈ (layoutOutput rows fields).mentions) : ∀ q ∈ m.qualifier?, q = rows := by
  rw [mentions_layoutOutput, List.mem_flatMap] at hm
  obtain ⟨e, -, hm⟩ := hm
  cases e with
  | column c =>
    obtain rfl := List.mem_singleton.1 hm
    intro q hq
    exact (Option.some.inj hq).symm
  | _ =>
    obtain ⟨c, -, rfl⟩ := List.mem_map.1 hm
    intro q hq
    cases hq

end Rows

/-- A list of returned fields is what the statement writes more than one that returns nothing. In
SQL Server a column that is a field stands behind the word for the rows, whatever its table is, and
a column within a field stands bare. So all columns name their rows if and only if no field mentions
a column but those that are columns of the changed table, and two columns are written alike, be they
of one table or of two, if they have one name and both are fields or both stand within one. In
PostgreSQL each column stands behind the alias of its table wherever tables have aliases. -/
theorem output_names_rows_iff {s : Statement} {r : Returned} (h : s.returned? = some r) :
    (∀ d, ∃ before after : Layout,
      s.write d = (do
        before.write d
        (r.layout d (s.isQualified?.getD false)).write d
        after.write d) ∧
      s.returningNothing.write d = (do before.write d; after.write d)) ∧
    (layoutOutput r.rows r.fields).mentions = r.fields.flatMap (Expr.outputMentions r.rows) ∧
    ((∀ m ∈ (layoutOutput r.rows r.fields).mentions, m.NamesRowOf r) ↔
      ∀ e ∈ r.fields, ∀ c ∈ e.columns, e = .column c ∧ c.table.sameInstance r.table) ∧
    (∀ m ∈ (layoutOutput r.rows r.fields).mentions,
      ∀ m' ∈ (layoutOutput r.rows r.fields).mentions,
        m.text .sqlServer = m'.text .sqlServer ↔
          m.qualifier? = m'.qualifier? ∧
            Dialect.identifier .sqlServer m.column.name m.column.enclosed =
              Dialect.identifier .sqlServer m'.column.name m'.column.enclosed) ∧
    (layoutReturning (s.isQualified?.getD false) r.fields).mentions =
      (r.fields.flatMap Expr.columns).map (Column.mention (s.isQualified?.getD false)) := by
  have hrows := StatementOf.rows_of_returned? h
  refine ⟨?place, mentions_layoutOutput r.rows r.fields, ?rows, ?texts,
    mentions_layoutReturning _ r.fields⟩
  case place =>
    intro d
    obtain ⟨before, after, hlayout, hnothing⟩ := StatementOf.layout_eq_returned d h rfl
    refine ⟨before, after, ?_, ?_⟩
    · rw [← StatementOf.layout_write, hlayout]
      simp [Item.write]
    · rw [← StatementOf.layout_write, hnothing]
      simp [Item.write]
  case rows =>
    rw [mentions_layoutOutput, List.forall_mem_flatMap]
    exact forall₂_congr fun e _ => e.outputMentions_namesRowOf_iff hrows
  case texts =>
    intro m hm m' hm'
    apply Mention.text_eq_text_iff
    · intro q hq
      rwa [qualifier_of_mem_mentions hm q hq]
    · intro q hq
      rwa [qualifier_of_mem_mentions hm' q hq]

/-- A change of invoices and their customers that returns the numbers of both and a sum. -/
def updateReturningNumbers : Statement :=
  let invoices : Table := { schema? := none, name := "Invoice", enclosed := false, id := ⟨0, 0⟩ }
  let customers : Table := { schema? := none, name := "Customer", enclosed := false, id := ⟨0, 1⟩ }
  let column (table : Table) (name : String) : Column :=
    { table, name, enclosed := false, type := .int }
  .update
    { table := invoices, sources := [customers]
      assignments := [⟨column invoices "Total", .value .int (.int 1)⟩]
      filter? := some (.of (.compare .eq (.column (column invoices "Customer"))
        (.column (column customers "Id"))))
      returning :=
        [.column (column invoices "Id"), .column (column customers "Id"),
          .arithmetic .add (.column (column invoices "Total")) (.value .int (.int 1))] }

/-- SQL Server is asked for the number of the invoice twice, in place of that of the customer, and
for a sum of a column without its rows. PostgreSQL is asked for what was meant. -/
theorem output_updateReturningNumbers :
    (updateReturningNumbers.write .sqlServer).inlined.sql =
      "UPDATE _0 SET Total=1 OUTPUT INSERTED.Id,INSERTED.Id,(Total+1) "
        ++ "FROM Invoice AS _0,Customer AS _1 WHERE _0.Customer=_1.Id" ∧
    (updateReturningNumbers.write .postgres).inlined.sql =
      "UPDATE \"Invoice\" AS _0 SET \"Total\"=1 FROM \"Customer\" AS _1 "
        ++ "WHERE _0.\"Customer\"=_1.\"Id\" RETURNING _0.\"Id\",_1.\"Id\",(_0.\"Total\"+1)" ∧
    ∃ r, updateReturningNumbers.returned? = some r ∧
      ∃ m ∈ (layoutOutput r.rows r.fields).mentions, ∃ m' ∈ (layoutOutput r.rows r.fields).mentions,
        ¬ m.column.table.sameInstance m'.column.table ∧
          m.text .sqlServer = m'.text .sqlServer ∧ ¬ m'.NamesRowOf r := by
  refine ⟨by decide +kernel, by decide +kernel, _, rfl, ?_⟩
  refine ⟨_, .head _, _, .tail _ (.head _), by decide, rfl, ?_⟩
  unfold Mention.NamesRowOf
  decide

/-- That not all columns name their rows is seen from the fields alone: one is of the table of
customers. -/
theorem updateReturningNumbers_misses_rows :
    ∃ r, updateReturningNumbers.returned? = some r ∧
      ¬ ∀ m ∈ (layoutOutput r.rows r.fields).mentions, m.NamesRowOf r := by
  refine ⟨_, rfl, ?_⟩
  obtain ⟨-, -, hiff, -⟩ := output_names_rows_iff (s := updateReturningNumbers) rfl
  rw [hiff]
  intro hfields
  obtain ⟨-, hsame⟩ := hfields _ (.tail _ (.head _)) _ (.head _)
  exact absurd hsame (by decide)

end TypedSql
