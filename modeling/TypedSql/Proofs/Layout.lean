import TypedSql.Proofs.Writing
/-!
# Laid-out statements

The text of a statement with its structure left visible: which parts of it declare tables, which
mention columns and with what in front of them, and where a selection or a change begins and ends.
Written out, a layout is what the statement writes.

## Main definitions

- `Item`, `Layout`: a part of a laid-out text, and a sequence of parts.
- `Item.write`, `Layout.write`: write a layout out.
- `Expr.layout`, `Condition.laidOut`, `StatementOf.layout`: the layouts of a template.

## Main statements

- `StatementOf.layout_write`: the layout of a statement, written out, is the statement.

## Design notes

Each body is a scope: a selection with its own tables, also where it is one part of a chain, and a
changing statement. The order of a chain of several selections stands outside of their scopes,
since it refers to the rows of the result.
-/

namespace TypedSql

open SqlWriter

/-- What a column is mentioned for. -/
inductive ColumnRole where
  /-- Its value in the rows of a table. -/
  | operand
  /-- To be assigned a value. -/
  | target
  /-- Its value in the rows that a changing statement returns. -/
  | returned
  /-- Its value in the rows of a chain of several selections. -/
  | resultOrder
deriving DecidableEq

/-- A part of a laid-out text. -/
inductive Item where
  | text (s : String)
  | binding (b : Binding)
  /-- A mention of a column, with what qualifies it. -/
  | column (role : ColumnRole) (qualifier? : Option String) (c : Column)
  /-- A declaration of a table, with its alias or without. -/
  | table (aliased : Bool) (t : Table)
  /-- A body of a statement whose tables have aliases or have none. -/
  | scope (aliased : Bool) (items : List Item)

/-- A laid-out text. -/
abbrev Layout := List Item

mutual

/-- Writes one part out. -/
def Item.write (d : Dialect) : Item → SqlWriter
  | .text s => SqlWriter.text s
  | .binding b => SqlWriter.binding d b
  | .column _ qualifier? c =>
    SqlWriter.text ((qualifier?.map (· ++ ".")).getD "" ++ d.identifier c.name c.enclosed)
  | .table aliased t => SqlWriter.text (d.tableReference aliased t)
  | .scope _ items => Layout.write d items

/-- Writes the parts of a layout in order. -/
def Layout.write (d : Dialect) : Layout → SqlWriter
  | [] => pure ()
  | i :: rest => do
    i.write d
    Layout.write d rest

end

theorem SqlWriter.text_empty : text "" = pure () := by
  funext o
  show ((), { o with sql := o.sql ++ "" }) = ((), o)
  rw [String.append_empty]

namespace Layout

/-- Text on its own. -/
def ofText (s : String) : Layout := [.text s]

/-- A layout in parentheses. -/
def parenthesised (l : Layout) : Layout := ofText "(" ++ l ++ ofText ")"

/-- Layouts with commas between them. -/
def commaSeparated (ls : List Layout) : Layout := [Item.text ","].intercalate ls

/-- Text in front of a comma-separated list, which vanishes with the list. -/
def listAfter (opening : String) (ls : List Layout) : Layout :=
  if ls.isEmpty then [] else ofText opening ++ commaSeparated ls

/-- Two layouts in parentheses with a connective between them. -/
def connected (connective : String) (left right : Layout) : Layout :=
  parenthesised left ++ ofText connective ++ parenthesised right

/-- Declarations of tables with commas between them. -/
def ofTables (aliased : Bool) (tables : List Table) : Layout :=
  commaSeparated (tables.map fun t => [.table aliased t])

theorem commaSeparated_cons_cons (l l' : Layout) (rest : List Layout) :
    commaSeparated (l :: l' :: rest) = l ++ ofText "," ++ commaSeparated (l' :: rest) :=
  List.intercalate_cons_cons

variable (d : Dialect)

@[simp]
theorem write_nil : write d [] = pure () := by
  rw [write]

@[simp]
theorem write_cons (i : Item) (l : Layout) :
    write d (i :: l) = (do i.write d; write d l) := by
  rw [write]

theorem write_singleton (i : Item) : write d [i] = i.write d := by
  simp

@[simp]
theorem write_ofText (s : String) : write d (ofText s) = text s := by
  simp [ofText, Item.write]

@[simp]
theorem write_append (l l' : Layout) : write d (l ++ l') = (do write d l; write d l') := by
  induction l with
  | nil => simp
  | cons i l ih => simp [ih]

@[simp]
theorem write_parenthesised (l : Layout) :
    write d (parenthesised l) = (do text "("; write d l; text ")") := by
  simp [parenthesised]

theorem write_flatMap {α : Type} (f : α → Layout) (as : List α) :
    write d (as.flatMap f) = as.forM fun a => write d (f a) := by
  induction as with
  | nil => simp
  | cons a as ih => rw [List.flatMap_cons, write_append, ih]; rfl

theorem write_commaSeparated (ls : List Layout) :
    write d (commaSeparated ls) = SqlWriter.commaSeparated (ls.map (write d)) := by
  cases ls with
  | nil => exact write_nil d
  | cons first rest =>
    induction rest generalizing first with
    | nil => simp [commaSeparated, SqlWriter.commaSeparated]
    | cons next rest ih =>
      rw [commaSeparated_cons_cons, write_append, write_append, ih]
      simp [SqlWriter.commaSeparated]

theorem write_listAfter (opening : String) (ls : List Layout) :
    write d (listAfter opening ls) = SqlWriter.listAfter opening (ls.map (write d)) := by
  cases ls <;> simp [listAfter, SqlWriter.listAfter, write_commaSeparated]

theorem write_connected (connective : String) (left right : Layout) :
    write d (connected connective left right) =
      SqlWriter.connected connective (write d left) (write d right) := by
  simp [connected, SqlWriter.connected, SqlWriter.parenthesised]

theorem write_ofTables (aliased : Bool) (tables : List Table) :
    write d (ofTables aliased tables) =
      text (commaJoined (tables.map (d.tableReference aliased))) := by
  cases tables with
  | nil =>
    rw [ofTables, write_commaSeparated]
    exact text_empty.symm
  | cons first rest =>
    induction rest generalizing first with
    | nil => simp [ofTables, commaSeparated, commaJoined, Item.write]
    | cons next rest ih =>
      have hnext := ih next
      simp only [ofTables, List.map_cons] at hnext ⊢
      rw [commaSeparated_cons_cons, write_append, write_append, hnext]
      simp [commaJoined, Item.write, text_bind_text, String.append_assoc,
        String.intercalate_cons_cons]

end Layout

section Expressions

/-- The layout of a call with laid-out arguments. Counting all rows takes no argument. -/
def SqlFunction.layoutCall (d : Dialect) (function : SqlFunction) (args : List Layout) : Layout :=
  match function with
  | .countAll => .ofText "COUNT(*)"
  | .countDistinct =>
    .ofText (d.functionName function)
      ++ Layout.parenthesised (.ofText "DISTINCT " ++ .commaSeparated args)
  | _ => .ofText (d.functionName function) ++ Layout.parenthesised (.commaSeparated args)

variable (d : Dialect) (role : ColumnRole) (qualified : Bool)

namespace Expr

mutual

/-- The layout of an expression whose columns are mentioned for one purpose. -/
def layout : Expr → Layout
  | column c => [.column role (if qualified then some c.table.aliasName else none) c]
  | value type v => [.binding (.fixed type v)]
  | slot index type => [.binding (.slot index type)]
  | call function args => function.layoutCall d (layoutList args)
  | arithmetic op left right =>
    Layout.parenthesised (left.layout ++ .ofText op.symbol ++ right.layout)
  | raw sql => .ofText sql

/-- The layouts of a list of expressions. -/
def layoutList : List Expr → List Layout
  | [] => []
  | e :: rest => e.layout :: layoutList rest

end

/-- A list of expressions with commas between them. -/
def layoutCommaSeparated (es : List Expr) : Layout :=
  .commaSeparated (es.map (layout d role qualified))

end Expr

theorem SqlFunction.layoutCall_write (function : SqlFunction) (args : List Layout) :
    (function.layoutCall d args).write d = function.writeCall d (args.map (Layout.write d)) := by
  cases function <;>
    simp [writeCall, layoutCall, Layout.write_commaSeparated, text_bind_text_bind]

/-- A mention of a column is written as its name behind the alias of its table. -/
theorem Item.write_column (c : Column) :
    (Item.column role (if qualified then some c.table.aliasName else none) c).write d =
      SqlWriter.text (d.columnReference qualified c) := by
  cases qualified <;> simp [Item.write, Dialect.columnReference, String.append_assoc]

mutual

theorem Expr.layout_write : ∀ e : Expr,
    (e.layout d role qualified).write d = e.write d qualified
  | .column c => by rw [layout, Layout.write_singleton, Item.write_column, write]
  | .value type v => by simp [layout, write, Item.write]
  | .slot index type => by simp [layout, write, Item.write]
  | .call function args => by
    rw [layout, SqlFunction.layoutCall_write, Expr.layoutList_write args, write]
  | .arithmetic op left right => by
    simp [layout, write, Expr.layout_write left, Expr.layout_write right]
  | .raw sql => by simp [layout, write]

theorem Expr.layoutList_write : ∀ es : List Expr,
    (Expr.layoutList d role qualified es).map (Layout.write d) = Expr.writeList d qualified es
  | [] => rfl
  | e :: rest => by
    simp [layoutList, writeList, Expr.layout_write e, Expr.layoutList_write rest]

end

theorem Expr.write_comp_layout :
    Layout.write d ∘ Expr.layout d role qualified = Expr.write d qualified :=
  funext (Expr.layout_write d role qualified)

theorem Expr.layoutCommaSeparated_write (es : List Expr) :
    (Expr.layoutCommaSeparated d role qualified es).write d =
      Expr.writeCommaSeparated d qualified es := by
  simp [layoutCommaSeparated, writeCommaSeparated, Layout.write_commaSeparated,
    Expr.write_comp_layout]

end Expressions

/-- A condition with its layout, given whether columns are qualified. -/
structure LaidOutCondition where
  hasSubquery : Bool
  layout : Bool → Layout

namespace LaidOutCondition

/-- The conjunction of two laid-out conditions. -/
def and (left right : LaidOutCondition) : LaidOutCondition where
  hasSubquery := left.hasSubquery || right.hasSubquery
  layout q := Layout.connected " AND " (left.layout q) (right.layout q)

/-- The conjunction of a list, nested to the left. -/
def all? : List LaidOutCondition → Option LaidOutCondition
  | [] => none
  | c :: rest => some (rest.foldl and c)

/-- A keyword and the condition, if there is one. -/
def clause (keyword : String) (qualified : Bool) : Option LaidOutCondition → Layout
  | none => []
  | some c => .ofText keyword ++ c.layout qualified

/-- The condition with the programs that write its layouts out. -/
def written (d : Dialect) (c : LaidOutCondition) : WrittenCondition where
  hasSubquery := c.hasSubquery
  write qualified := (c.layout qualified).write d

@[simp]
theorem hasSubquery_comp_written (d : Dialect) :
    WrittenCondition.hasSubquery ∘ written d = hasSubquery := rfl

variable (d : Dialect) (qualified : Bool)

theorem and_written (left right : LaidOutCondition) :
    WrittenCondition.and (left.written d) (right.written d) = (left.and right).written d := by
  simp [WrittenCondition.and, and, written, Layout.write_connected]

theorem all?_written (cs : List LaidOutCondition) :
    WrittenCondition.all? (cs.map (written d)) = (all? cs).map (written d) := by
  cases cs with
  | nil => rfl
  | cons c rest =>
    induction rest generalizing c with
    | nil => rfl
    | cons next rest ih =>
      simpa [all?, WrittenCondition.all?, and_written] using ih (c.and next)

theorem clause_write (keyword : String) (c? : Option LaidOutCondition) :
    (clause keyword qualified c?).write d =
      WrittenCondition.writeClause keyword qualified (c?.map (written d)) := by
  cases c? <;> simp [clause, WrittenCondition.writeClause, written]

end LaidOutCondition

section Clauses

/-- The layout of a pattern match. SQL Server ignores letter case by comparing lower-case forms. -/
def PatternMatch.layout (d : Dialect) (kind : PatternMatch) (expr pattern : Layout) : Layout :=
  match d, kind.ignoresCase with
  | .postgres, true =>
    expr ++ .ofText (if kind.negated then " NOT ILIKE " else " ILIKE ") ++ pattern
  | .sqlServer, true =>
    .ofText "LOWER" ++ Layout.parenthesised expr
      ++ .ofText (if kind.negated then " NOT LIKE LOWER" else " LIKE LOWER")
      ++ Layout.parenthesised pattern
  | _, false => expr ++ .ofText (if kind.negated then " NOT LIKE " else " LIKE ") ++ pattern

/-- The layout of joins. -/
def layoutJoins (qualified : Bool) (joins : List (Join LaidOutCondition)) : Layout :=
  joins.flatMap fun j =>
    Layout.ofText (" " ++ j.kind.sql ++ " ") ++ [.table qualified j.table] ++ Layout.ofText " ON "
      ++ j.on.layout qualified

namespace SelectBody

/-- The table that is selected from, with its hints in SQL Server. -/
def layoutSource {γ : Type} (d : Dialect) (qualified : Bool) (b : SelectBody γ) : Layout :=
  match b.source? with
  | none => []
  | some table =>
    let hints :=
      if d = .sqlServer ∧ b.hints ≠ [] then
        " WITH(" ++ commaJoined (b.hints.map TableHint.sql) ++ ")"
      else ""
    Layout.ofText " FROM " ++ [.table qualified table] ++ Layout.ofText hints

/-- The layout of one selection, without its limit in PostgreSQL. -/
def layout (d : Dialect) (qualified : Bool) (b : SelectBody LaidOutCondition) : Layout :=
  .ofText (b.opening d) ++ Expr.layoutCommaSeparated d .operand qualified b.fields
    ++ b.layoutSource d qualified ++ layoutJoins qualified b.joins
    ++ LaidOutCondition.clause " WHERE " qualified b.filter?
    ++ .listAfter " GROUP BY " (b.groupBy.map (Expr.layout d .operand qualified))
    ++ LaidOutCondition.clause " HAVING " qualified b.having?

/-- The layout of one selection of a chain of several. -/
def layoutInChain (d : Dialect) (qualified : Bool) (b : SelectBody LaidOutCondition) : Layout :=
  match d, b.top? with
  | .postgres, some n =>
    Layout.ofText "(" ++ [.scope qualified (b.layout d qualified)]
      ++ Layout.ofText (" LIMIT " ++ toString n ++ ")")
  | _, _ => [.scope qualified (b.layout d qualified)]

end SelectBody

/-- The layout of a term of an order. -/
def OrderTerm.layout (d : Dialect) (role : ColumnRole) (qualified : Bool) (term : OrderTerm) :
    Layout :=
  term.expr.layout d role qualified ++ match term.order with
    | .ascending => []
    | .descending => .ofText " DESC"

namespace SelectOf

/-- The layout of an order. -/
def layoutOrder {γ : Type} (d : Dialect) (role : ColumnRole) (qualified : Bool)
    (s : SelectOf γ) : Layout :=
  .listAfter " ORDER BY " (s.orderBy.map (OrderTerm.layout d role qualified))

/-- The layout of a chain of selections. The order of a single selection can name its tables, and
so it stands in its scope. -/
def layout (d : Dialect) (outerQualified : Bool) (s : SelectOf LaidOutCondition) : Layout :=
  let qualified := outerQualified || s.usesAliases LaidOutCondition.hasSubquery
  let parts :=
    if s.unions.isEmpty then
      [.scope qualified (s.head.layout d qualified ++ s.layoutOrder d .operand qualified)]
    else
      s.head.layoutInChain d qualified
        ++ (s.unions.flatMap fun (operator, body) =>
          .ofText (" " ++ operator.sql ++ " ") ++ body.layoutInChain d qualified)
        ++ s.layoutOrder d .resultOrder false
  parts ++ .ofText (s.closing d qualified)

end SelectOf

/-- A field of the rows that SQL Server returns. -/
def layoutOutputField (rows : String) : Expr → Layout
  | .column c => [.column .returned (some rows) c]
  | e => e.layout .sqlServer .returned false

/-- The layout of the returned fields of SQL Server. -/
def layoutOutput (rows : String) (fields : List Expr) : Layout :=
  .listAfter " OUTPUT " (fields.map (layoutOutputField rows))

/-- The layout of the returned fields of PostgreSQL. -/
def layoutReturning (qualified : Bool) (fields : List Expr) : Layout :=
  .listAfter " RETURNING " (fields.map (Expr.layout .postgres .returned qualified))

/-- The layout of a list of assignments. -/
def layoutAssignments (d : Dialect) (qualified : Bool) (assignments : List Assignment) : Layout :=
  .ofText " SET " ++ .commaSeparated (assignments.map fun a =>
    [.column .target none a.column] ++ Layout.ofText "=" ++ a.value.layout d .operand qualified)

/-- The layout of a statement that adds a row. -/
def InsertTemplate.layout (d : Dialect) (s : InsertTemplate) : Layout :=
  let values :=
    Layout.ofText " VALUES("
      ++ Expr.layoutCommaSeparated d .operand false (s.assignments.map Assignment.value)
      ++ .ofText ")"
  match d with
  | .sqlServer =>
    [.scope false (Layout.ofText (s.target d) ++ layoutOutput "INSERTED" s.returning ++ values)]
  | .postgres =>
    [.scope false (Layout.ofText (s.target d) ++ values ++ layoutReturning false s.returning)]

namespace UpdateOf

variable {γ : Type}

/-- The changed table, which SQL Server names by its alias if it has one. -/
def layoutTarget (d : Dialect) (qualified : Bool) (s : UpdateOf γ) : Layout :=
  match d, qualified with
  | .sqlServer, true => .ofText ("UPDATE " ++ s.table.aliasName)
  | .sqlServer, false => Layout.ofText "UPDATE " ++ [.table false s.table]
  | .postgres, _ => Layout.ofText "UPDATE " ++ [.table qualified s.table]

/-- The tables that the new values are taken from. -/
def layoutSources (d : Dialect) (qualified : Bool) (s : UpdateOf γ) : Layout :=
  match d with
  | .sqlServer =>
    if qualified then .ofText " FROM " ++ .ofTables true (s.table :: s.sources) else []
  | .postgres => if s.sources.isEmpty then [] else .ofText " FROM " ++ .ofTables true s.sources

/-- The layout of a statement that changes rows. -/
def layout (d : Dialect) (s : UpdateOf LaidOutCondition) : Layout :=
  let qualified := s.usesAliases LaidOutCondition.hasSubquery
  let changes := s.layoutTarget d qualified ++ layoutAssignments d qualified s.assignments
  let sources := s.layoutSources d qualified
  let filter := LaidOutCondition.clause " WHERE " qualified s.filter?
  match d with
  | .sqlServer =>
    [.scope qualified (changes ++ layoutOutput "INSERTED" s.returning ++ sources ++ filter)]
  | .postgres =>
    [.scope qualified (changes ++ sources ++ filter ++ layoutReturning qualified s.returning)]

end UpdateOf

namespace DeleteOf

variable {γ : Type}

/-- The table that rows are removed from, which SQL Server names by its alias if it has one. -/
def layoutTarget (d : Dialect) (qualified : Bool) (s : DeleteOf γ) : Layout :=
  match d, qualified with
  | .sqlServer, true => .ofText ("DELETE " ++ s.table.aliasName)
  | .sqlServer, false => Layout.ofText "DELETE FROM " ++ [.table false s.table]
  | .postgres, _ => Layout.ofText "DELETE FROM " ++ [.table qualified s.table]

/-- Where SQL Server declares the table again, and where PostgreSQL lists the joined tables. -/
def layoutSources (d : Dialect) (qualified : Bool) (s : DeleteOf γ) : Layout :=
  match d with
  | .sqlServer => if qualified then Layout.ofText " FROM " ++ [.table true s.table] else []
  | .postgres =>
    if s.joins.isEmpty then []
    else .ofText " USING " ++ .ofTables true (s.joins.map Join.table)

/-- The layout of a statement that removes rows. -/
def layout (d : Dialect) (s : DeleteOf LaidOutCondition) : Layout :=
  let qualified := s.usesAliases LaidOutCondition.hasSubquery
  let target := s.layoutTarget d qualified
  let sources := s.layoutSources d qualified
  match d with
  | .sqlServer =>
    [.scope qualified (target ++ layoutOutput "DELETED" s.returning ++ sources
      ++ (if qualified then layoutJoins true s.joins else [])
      ++ LaidOutCondition.clause " WHERE " qualified s.filter?)]
  | .postgres =>
    let filter? := LaidOutCondition.all? (s.joins.map Join.on ++ s.filter?.toList)
    [.scope qualified (target ++ sources ++ LaidOutCondition.clause " WHERE " qualified filter?
      ++ layoutReturning qualified s.returning)]

end DeleteOf

/-- The layout of a statement whose conditions are laid out. -/
def StatementOf.layoutShape (d : Dialect) (outerQualified : Bool) :
    StatementOf LaidOutCondition → Layout
  | .select s => s.layout d outerQualified
  | .insert s => s.layout d
  | .update s => s.layout d
  | .delete s => s.layout d
  | .truncate table => .ofText ("TRUNCATE TABLE " ++ d.tableName table)

/-- The layout of one level of a condition. -/
def Predicate.layout (d : Dialect) (qualified : Bool) : Predicate LaidOutCondition → Layout
  | .compare op left right =>
    left.layout d .operand qualified ++ .ofText op.symbol ++ right.layout d .operand qualified
  | .and left right => .connected " AND " (left.layout qualified) (right.layout qualified)
  | .or left right => .connected " OR " (left.layout qualified) (right.layout qualified)
  | .not inner => .ofText "NOT " ++ Layout.parenthesised (inner.layout qualified)
  | .between expr low high negated =>
    expr.layout d .operand qualified ++ .ofText (if negated then " NOT BETWEEN " else " BETWEEN ")
      ++ low.layout d .operand qualified ++ .ofText " AND " ++ high.layout d .operand qualified
  | .inList expr items negated =>
    expr.layout d .operand qualified ++ .ofText (if negated then " NOT IN" else " IN")
      ++ Layout.parenthesised (Expr.layoutCommaSeparated d .operand qualified items)
  | .inQuery expr query negated =>
    expr.layout d .operand qualified ++ .ofText (if negated then " NOT IN" else " IN")
      ++ Layout.parenthesised (query.layoutShape d qualified)
  | .existsQuery query negated =>
    .ofText (if negated then "NOT EXISTS" else "EXISTS")
      ++ Layout.parenthesised (query.layoutShape d qualified)
  | .isNull expr negated =>
    expr.layout d .operand qualified ++ .ofText (if negated then " IS NOT NULL" else " IS NULL")
  | .like kind expr pattern =>
    kind.layout d (expr.layout d .operand qualified) (pattern.layout d .operand qualified)
  | .raw sql => .ofText sql

/-- A condition with its layouts. -/
def Condition.laidOut (d : Dialect) : Condition → LaidOutCondition :=
  Condition.fold fun p =>
    { hasSubquery := p.hasSubqueryWith LaidOutCondition.hasSubquery
      layout := fun qualified => p.layout d qualified }

/-- The layout of a statement. -/
def StatementOf.layout (d : Dialect) (s : Statement) : Layout :=
  (s.map (Condition.laidOut d)).layoutShape d false

end Clauses

section Writing

variable (d : Dialect) (qualified : Bool)

theorem PatternMatch.layout_write (kind : PatternMatch) (expr pattern : Layout) :
    (kind.layout d expr pattern).write d = kind.write d (expr.write d) (pattern.write d) := by
  obtain ⟨ignoresCase, negated⟩ := kind
  cases d <;> cases ignoresCase <;> cases negated <;>
    simp [PatternMatch.write, PatternMatch.layout, text_bind_text_bind]

theorem layoutJoins_write (joins : List (Join LaidOutCondition)) :
    (layoutJoins qualified joins).write d =
      writeJoins d qualified (joins.map (Join.map (LaidOutCondition.written d))) := by
  rw [writeJoins, layoutJoins, Layout.write_flatMap]
  simp [List.forM_map, Join.map, LaidOutCondition.written, Item.write]

namespace SelectBody

theorem layoutSource_write {γ : Type} (b : SelectBody γ) :
    (b.layoutSource d qualified).write d = text (b.sourceClause d qualified) := by
  cases hsource : b.source? with
  | none =>
    simp only [layoutSource, sourceClause, hsource, Layout.write_nil]
    exact text_empty.symm
  | some table =>
    simp [layoutSource, sourceClause, hsource, Item.write, text_bind_text, String.append_assoc]

theorem layout_write (b : SelectBody LaidOutCondition) :
    (b.layout d qualified).write d =
      (b.map (LaidOutCondition.written d)).write d qualified := by
  simp [write, layout, map_joins, map_filter?, map_having?, layoutSource_write,
    layoutJoins_write, LaidOutCondition.clause_write, Layout.write_listAfter,
    Expr.layoutCommaSeparated_write, Expr.write_comp_layout]

theorem layoutInChain_write (b : SelectBody LaidOutCondition) :
    (b.layoutInChain d qualified).write d =
      (b.map (LaidOutCondition.written d)).writeInChain d qualified := by
  cases d <;> cases htop : b.top? <;>
    simp [layoutInChain, writeInChain, htop, Item.write, layout_write]

end SelectBody

theorem OrderTerm.layout_write (role : ColumnRole) (term : OrderTerm) :
    (term.layout d role qualified).write d = term.write d qualified := by
  obtain ⟨expr, order⟩ := term
  cases order <;> simp [OrderTerm.write, OrderTerm.layout, Expr.layout_write]

theorem SelectOf.layoutOrder_write {γ : Type} (role : ColumnRole) (s : SelectOf γ) :
    (s.layoutOrder d role qualified).write d =
      SqlWriter.listAfter " ORDER BY " (s.orderBy.map (OrderTerm.write d qualified)) := by
  have hterm : Layout.write d ∘ OrderTerm.layout d role qualified = OrderTerm.write d qualified :=
    funext (OrderTerm.layout_write d qualified role)
  rw [layoutOrder, Layout.write_listAfter, List.map_map, hterm]

theorem layoutOutput_write (rows : String) (fields : List Expr) :
    (layoutOutput rows fields).write .sqlServer = writeOutput rows fields := by
  have hfield : Layout.write .sqlServer ∘ layoutOutputField rows = writeOutputField rows := by
    funext e
    cases e with
    | column c =>
      simp [layoutOutputField, writeOutputField, Item.write, text_bind_text, String.append_assoc]
    | _ => exact Expr.layout_write .sqlServer .returned false _
  rw [layoutOutput, writeOutput, Layout.write_listAfter, List.map_map, hfield]

theorem layoutReturning_write (fields : List Expr) :
    (layoutReturning qualified fields).write .postgres = writeReturning qualified fields := by
  rw [layoutReturning, writeReturning, Layout.write_listAfter, List.map_map,
    Expr.write_comp_layout]

theorem layoutAssignments_write (assignments : List Assignment) :
    (layoutAssignments d qualified assignments).write d =
      writeAssignments d qualified assignments := by
  simp [layoutAssignments, writeAssignments, Layout.write_commaSeparated, Expr.layout_write,
    Item.write, Function.comp_def]

theorem SelectOf.layout_write (outerQualified : Bool) (s : SelectOf LaidOutCondition) :
    (s.layout d outerQualified).write d =
      (s.map (LaidOutCondition.written d)).write d outerQualified := by
  simp only [write, layout, usesAliases_map, LaidOutCondition.hasSubquery_comp_written,
    closing_map, map_orderBy, map_unions, parts, map_head]
  -- a chain lays its parts out in another way than a single selection
  cases hunions : s.unions with
  | nil => simp [Item.write, SelectBody.layout_write, layoutOrder_write]
  | cons union rest =>
    simp [SelectBody.layoutInChain_write, layoutOrder_write, Layout.write_flatMap]

theorem InsertTemplate.layout_write (s : InsertTemplate) : (s.layout d).write d = s.write d := by
  cases d <;>
    simp [layout, write, Item.write, layoutOutput_write, layoutReturning_write,
      Expr.layoutCommaSeparated_write]

namespace UpdateOf

variable {γ : Type}

theorem layoutTarget_write (s : UpdateOf γ) :
    (s.layoutTarget d qualified).write d = text (s.target d qualified) := by
  cases d <;> cases qualified <;>
    simp [layoutTarget, target, Item.write, Dialect.tableReference, text_bind_text]

theorem layoutSources_write (s : UpdateOf γ) :
    (s.layoutSources d qualified).write d = text (s.sourceClause d qualified) := by
  cases d with
  | sqlServer =>
    cases qualified with
    | true => simp [layoutSources, sourceClause, Layout.write_ofTables, text_bind_text]
    | false => simp [layoutSources, sourceClause, text_empty]
  | postgres =>
    cases hsources : s.sources with
    | nil => simp [layoutSources, sourceClause, hsources, text_empty]
    | cons t rest =>
      simp [layoutSources, sourceClause, hsources, Layout.write_ofTables, text_bind_text]

theorem layout_write (s : UpdateOf LaidOutCondition) :
    (s.layout d).write d = (s.map (LaidOutCondition.written d)).write d := by
  cases d <;>
    simp [layout, write, Item.write, usesAliases_map, map_filter?, layoutTarget_write,
      layoutAssignments_write, layoutOutput_write, layoutReturning_write, layoutSources_write,
      LaidOutCondition.clause_write]

end UpdateOf

namespace DeleteOf

variable {γ : Type}

theorem layoutTarget_write (s : DeleteOf γ) :
    (s.layoutTarget d qualified).write d = text (s.target d qualified) := by
  cases d <;> cases qualified <;>
    simp [layoutTarget, target, Item.write, Dialect.tableReference, text_bind_text,
      ← String.append_assoc]

theorem layoutSources_write (s : DeleteOf γ) :
    (s.layoutSources d qualified).write d = text (s.sourceClause d qualified) := by
  cases d with
  | sqlServer =>
    cases qualified with
    | true => simp [layoutSources, sourceClause, Item.write, text_bind_text]
    | false => simp [layoutSources, sourceClause, text_empty]
  | postgres =>
    cases hjoins : s.joins with
    | nil => simp [layoutSources, sourceClause, hjoins, text_empty]
    | cons j rest =>
      simp [layoutSources, sourceClause, hjoins, Layout.write_ofTables, text_bind_text,
        Function.comp_def]

theorem layout_write (s : DeleteOf LaidOutCondition) :
    (s.layout d).write d = (s.map (LaidOutCondition.written d)).write d := by
  cases d with
  | sqlServer =>
    cases hqualified : s.usesAliases LaidOutCondition.hasSubquery <;>
      simp [layout, write, Item.write, usesAliases_map, hqualified, map_joins, map_filter?,
        layoutTarget_write, layoutSources_write, layoutOutput_write, layoutJoins_write .sqlServer,
        LaidOutCondition.clause_write]
  | postgres =>
    -- the conditions of the joins are merged into the filter
    have hconditions : (s.map (LaidOutCondition.written .postgres)).joins.map Join.on ++
        (s.map (LaidOutCondition.written .postgres)).filter?.toList =
          (s.joins.map Join.on ++ s.filter?.toList).map (LaidOutCondition.written .postgres) := by
      cases hfilter : s.filter? <;>
        simp [map_joins, map_filter?, hfilter, Function.comp_def, Join.map_on]
    simp only [write, layout, usesAliases_map, LaidOutCondition.hasSubquery_comp_written,
      hconditions, LaidOutCondition.all?_written, ← LaidOutCondition.clause_write]
    simp [Item.write, layoutTarget_write, layoutSources_write, layoutReturning_write]

end DeleteOf

theorem StatementOf.layoutShape_write (outerQualified : Bool) (s : StatementOf LaidOutCondition) :
    (s.layoutShape d outerQualified).write d =
      (s.map (LaidOutCondition.written d)).writeShape d outerQualified := by
  cases s with
  | select s => exact s.layout_write d outerQualified
  | insert s => exact s.layout_write d
  | update s => exact s.layout_write d
  | delete s => exact s.layout_write d
  | truncate table => simp [map, writeShape, layoutShape, text_bind_text]

theorem Predicate.layout_write (p : Predicate LaidOutCondition) :
    (p.layout d qualified).write d = (p.map (LaidOutCondition.written d)).write d qualified := by
  cases p with
  | compare op left right => simp [map, write, layout, Expr.layout_write]
  | and left right => exact Layout.write_connected d _ _ _
  | or left right => exact Layout.write_connected d _ _ _
  | not inner => simp [map, write, layout, LaidOutCondition.written, SqlWriter.parenthesised]
  | between expr low high negated => simp [map, write, layout, Expr.layout_write]
  | inList expr items negated =>
    cases negated <;>
      simp [map, write, layout, Expr.layout_write, Expr.layoutCommaSeparated_write,
        text_bind_text_bind]
  | inQuery expr query negated =>
    cases negated <;>
      simp [map, write, layout, Expr.layout_write, StatementOf.layoutShape_write,
        text_bind_text_bind]
  | existsQuery query negated =>
    cases negated <;>
      simp [map, write, layout, StatementOf.layoutShape_write, text_bind_text_bind]
  | isNull expr negated => simp [map, write, layout, Expr.layout_write]
  | like kind expr pattern =>
    simp [map, write, layout, Expr.layout_write, PatternMatch.layout_write]
  | raw sql => simp [map, write, layout]

/-- A condition's programs are those of its layouts. -/
theorem Condition.laidOut_written (c : Condition) : (c.laidOut d).written d = c.written d := by
  refine Condition.fold_fusion (LaidOutCondition.written d) (fun p => ?_) c
  rw [Predicate.hasSubqueryWith_map, LaidOutCondition.hasSubquery_comp_written,
    ← funext fun qualified => Predicate.layout_write d qualified p]
  rfl

/-- Written out, the layout of a statement is what the statement writes. -/
theorem StatementOf.layout_write (s : Statement) : (s.layout d).write d = s.write d := by
  have hconditions : LaidOutCondition.written d ∘ Condition.laidOut d = Condition.written d :=
    funext (Condition.laidOut_written d)
  rw [layout, layoutShape_write, StatementOf.map_map, hconditions]
  rfl

end Writing

end TypedSql
