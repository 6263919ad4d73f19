import TypedSql.Dialect.Identifier
import TypedSql.Statement.Basic
/-!
# Clauses without values

The stretches of a statement in which no expression stands: they name tables and carry keywords,
and their text is the same whatever the values of the statement are.

## Main definitions

- `SelectBody.opening`, `SelectBody.sourceClause`, `SelectOf.closing`: the words of a selection.
- `RowLock.clause`: the locking clause.
- `InsertTemplate.target`, `UpdateOf.target`, `DeleteOf.target`: how a change names its table.
- `UpdateOf.sourceClause`, `DeleteOf.sourceClause`: how a change names other tables.
-/

namespace TypedSql

variable {γ δ : Type}

/-- Texts with commas between them. -/
def commaJoined (texts : List String) : String := ",".intercalate texts

namespace SelectBody

/-- The words before the selected fields. -/
def opening (d : Dialect) (b : SelectBody γ) : String :=
  let distinct := if b.distinct then "DISTINCT " else ""
  let top :=
    match d, b.top? with
    | .sqlServer, some n => "TOP " ++ toString n ++ " "
    | _, _ => ""
  "SELECT " ++ distinct ++ top

/-- The table that is selected from, with its hints in SQL Server. -/
def sourceClause (d : Dialect) (qualified : Bool) (b : SelectBody γ) : String :=
  match b.source? with
  | none => ""
  | some table =>
    let hints :=
      if d = .sqlServer ∧ b.hints ≠ [] then
        " WITH(" ++ commaJoined (b.hints.map TableHint.sql) ++ ")"
      else ""
    " FROM " ++ d.tableReference qualified table ++ hints

@[simp]
theorem opening_map (d : Dialect) (f : γ → δ) (b : SelectBody γ) :
    (b.map f).opening d = b.opening d := rfl

@[simp]
theorem sourceClause_map (d : Dialect) (qualified : Bool) (f : γ → δ) (b : SelectBody γ) :
    (b.map f).sourceClause d qualified = b.sourceClause d qualified := rfl

end SelectBody

/-- The locking clause of PostgreSQL, which names tables as the statement declares them. -/
def RowLock.clause (qualified : Bool) (lock : RowLock) : String :=
  let strength :=
    match lock.strength with
    | .update => " FOR UPDATE"
    | .noKeyUpdate => " FOR NO KEY UPDATE"
    | .share => " FOR SHARE"
  let name (t : Table) :=
    if qualified then t.aliasName else Dialect.postgres.identifier t.name t.enclosed
  let tables := if lock.tables.isEmpty then "" else " OF " ++ commaJoined (lock.tables.map name)
  let wait :=
    match lock.wait with
    | .wait => ""
    | .noWait => " NOWAIT"
    | .skipLocked => " SKIP LOCKED"
  strength ++ tables ++ wait

namespace SelectOf

/-- What follows the order. -/
def closing (d : Dialect) (qualified : Bool) (s : SelectOf γ) : String :=
  match d with
  | .sqlServer =>
    if s.options.isEmpty then ""
    else " OPTION(" ++ commaJoined (s.options.map QueryOption.sql) ++ ")"
  | .postgres =>
    let limit :=
      match s.unions, s.head.top? with
      | [], some n => " LIMIT " ++ toString n
      | _, _ => ""
    limit ++ (s.lock?.map (RowLock.clause qualified)).getD ""

@[simp]
theorem closing_map (d : Dialect) (qualified : Bool) (f : γ → δ) (s : SelectOf γ) :
    (s.map f).closing d qualified = s.closing d qualified := by
  cases d with
  | sqlServer => rfl
  | postgres =>
    cases hunions : s.unions <;> cases htop : s.head.top? <;>
      simp [closing, map, SelectBody.map, hunions, htop]

end SelectOf

/-- What a new row is added to: the table and the columns that get a value. -/
def InsertTemplate.target (d : Dialect) (s : InsertTemplate) : String :=
  let columns := s.assignments.map fun a => d.identifier a.column.name a.column.enclosed
  "INSERT INTO " ++ d.tableName s.table ++ "(" ++ commaJoined columns ++ ")"

namespace UpdateOf

/-- The changed table. SQL Server names it by its alias, which it declares among the other
tables. -/
def target (d : Dialect) (qualified : Bool) (s : UpdateOf γ) : String :=
  match d with
  | .sqlServer => "UPDATE " ++ if qualified then s.table.aliasName else d.tableName s.table
  | .postgres => "UPDATE " ++ d.tableReference qualified s.table

/-- The tables that the new values are taken from. -/
def sourceClause (d : Dialect) (qualified : Bool) (s : UpdateOf γ) : String :=
  match d with
  | .sqlServer =>
    if qualified then
      " FROM " ++ commaJoined ((s.table :: s.sources).map (d.tableReference true))
    else ""
  | .postgres =>
    if s.sources.isEmpty then ""
    else " FROM " ++ commaJoined (s.sources.map (d.tableReference true))

@[simp]
theorem target_map (d : Dialect) (qualified : Bool) (f : γ → δ) (s : UpdateOf γ) :
    (s.map f).target d qualified = s.target d qualified := rfl

@[simp]
theorem sourceClause_map (d : Dialect) (qualified : Bool) (f : γ → δ) (s : UpdateOf γ) :
    (s.map f).sourceClause d qualified = s.sourceClause d qualified := rfl

end UpdateOf

namespace DeleteOf

/-- The table that rows are removed from. SQL Server names it by its alias if it has one. -/
def target (d : Dialect) (qualified : Bool) (s : DeleteOf γ) : String :=
  match d with
  | .sqlServer =>
    "DELETE " ++ if qualified then s.table.aliasName else "FROM " ++ d.tableName s.table
  | .postgres => "DELETE FROM " ++ d.tableReference qualified s.table

/-- Where SQL Server declares the table again, and where PostgreSQL lists the joined tables. -/
def sourceClause (d : Dialect) (qualified : Bool) (s : DeleteOf γ) : String :=
  match d with
  | .sqlServer => if qualified then " FROM " ++ d.tableReference true s.table else ""
  | .postgres =>
    if s.joins.isEmpty then ""
    else " USING " ++ commaJoined (s.joins.map fun j => d.tableReference true j.table)

@[simp]
theorem target_map (d : Dialect) (qualified : Bool) (f : γ → δ) (s : DeleteOf γ) :
    (s.map f).target d qualified = s.target d qualified := rfl

@[simp]
theorem sourceClause_map (d : Dialect) (qualified : Bool) (f : γ → δ) (s : DeleteOf γ) :
    (s.map f).sourceClause d qualified = s.sourceClause d qualified := by
  cases d <;> simp [sourceClause, map, Join.map, Function.comp_def]

end DeleteOf

end TypedSql
