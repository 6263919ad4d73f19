import TypedSql.Expr.Write
import TypedSql.Statement.Render
/-!
# Writing statements

The programs that write conditions and statements, clause by clause in the order of the dialect.
Each value is registered when it is reached, so the parameters are numbered as they stand in the
text, whatever the order of the clauses.

## Main definitions

- `WrittenCondition`: a condition whose program is known for both ways of naming columns.
- `Condition.write`, `StatementOf.write`: write conditions and statements.
-/

namespace TypedSql

open SqlWriter

/-- A condition with the program that writes it, given whether columns are qualified. -/
structure WrittenCondition where
  hasSubquery : Bool
  write : Bool → SqlWriter

namespace SqlWriter

/-- Writes in parentheses. -/
def parenthesised (w : SqlWriter) : SqlWriter := do
  text "("
  w
  text ")"

/-- Writes two operands in parentheses with a connective between them. -/
def connected (connective : String) (left right : SqlWriter) : SqlWriter := do
  left.parenthesised
  text connective
  right.parenthesised

/-- Writes a comma-separated list after a text, or nothing if the list is empty. -/
def listAfter (opening : String) (ws : List SqlWriter) : SqlWriter := do
  unless ws.isEmpty do
    text opening
    commaSeparated ws

end SqlWriter

namespace WrittenCondition

/-- The conjunction of two conditions. -/
def and (left right : WrittenCondition) : WrittenCondition where
  hasSubquery := left.hasSubquery || right.hasSubquery
  write q := connected " AND " (left.write q) (right.write q)

/-- The conjunction of a list, nested to the left. -/
def all? : List WrittenCondition → Option WrittenCondition
  | [] => none
  | c :: rest => some (rest.foldl and c)

/-- Writes a keyword and the condition, if there is one. -/
def writeClause (keyword : String) (qualified : Bool) : Option WrittenCondition → SqlWriter
  | none => pure ()
  | some c => do
    text keyword
    c.write qualified

end WrittenCondition

/-- Writes a pattern match. SQL Server ignores letter case by comparing lower-case forms. -/
def PatternMatch.write (d : Dialect) (kind : PatternMatch) (expr pattern : SqlWriter) :
    SqlWriter := do
  let lowered := kind.ignoresCase && d == .sqlServer
  let word := if kind.ignoresCase && d == .postgres then "ILIKE " else "LIKE "
  if lowered then text "LOWER("
  expr
  if lowered then text ")"
  text (if kind.negated then " NOT " else " ")
  text word
  if lowered then text "LOWER("
  pattern
  if lowered then text ")"

/-- Writes joins, one after the other. -/
def writeJoins (d : Dialect) (qualified : Bool) (joins : List (Join WrittenCondition)) :
    SqlWriter :=
  joins.forM fun j => do
    text (" " ++ j.kind.sql ++ " ")
    text (d.tableReference qualified j.table)
    text " ON "
    j.on.write qualified

namespace SelectBody

/-- Writes one selection without its limit in PostgreSQL. -/
def write (d : Dialect) (qualified : Bool) (b : SelectBody WrittenCondition) : SqlWriter := do
  text (b.opening d)
  Expr.writeCommaSeparated d qualified b.fields
  text (b.sourceClause d qualified)
  writeJoins d qualified b.joins
  WrittenCondition.writeClause " WHERE " qualified b.filter?
  listAfter " GROUP BY " (b.groupBy.map (Expr.write d qualified))
  WrittenCondition.writeClause " HAVING " qualified b.having?

/-- Writes one selection of a chain of several. PostgreSQL needs parentheses around a limited
one. -/
def writeInChain (d : Dialect) (qualified : Bool) (b : SelectBody WrittenCondition) :
    SqlWriter := do
  match d, b.top? with
  | .postgres, some n =>
    text "("
    b.write d qualified
    text (" LIMIT " ++ toString n ++ ")")
  | _, _ => b.write d qualified

end SelectBody

/-- Writes a term of an order. -/
def OrderTerm.write (d : Dialect) (qualified : Bool) (term : OrderTerm) : SqlWriter := do
  term.expr.write d qualified
  if term.order = .descending then
    text " DESC"

namespace SelectOf

/-- Writes a chain of selections. Only the selections of a chain of several carry their own limits,
and only the order of a single selection can name the tables. -/
def write (d : Dialect) (outerQualified : Bool) (s : SelectOf WrittenCondition) : SqlWriter := do
  let qualified := outerQualified || s.usesAliases WrittenCondition.hasSubquery
  let isChained := !s.unions.isEmpty
  s.parts.forM fun (operator?, body) => do
    if let some operator := operator? then
      text (" " ++ operator.sql ++ " ")
    if isChained then body.writeInChain d qualified else body.write d qualified
  listAfter " ORDER BY " (s.orderBy.map (OrderTerm.write d (qualified && !isChained)))
  text (s.closing d qualified)

end SelectOf

/-- Writes a field of the rows that SQL Server returns. -/
def writeOutputField (rows : String) : Expr → SqlWriter
  | .column c => do
    text rows
    text "."
    text (Dialect.sqlServer.identifier c.name c.enclosed)
  | e => e.write .sqlServer false

/-- Writes the returned fields of SQL Server. -/
def writeOutput (rows : String) (fields : List Expr) : SqlWriter :=
  listAfter " OUTPUT " (fields.map (writeOutputField rows))

/-- Writes the returned fields of PostgreSQL. -/
def writeReturning (qualified : Bool) (fields : List Expr) : SqlWriter :=
  listAfter " RETURNING " (fields.map (Expr.write .postgres qualified))

/-- Writes a list of assignments; their targets are never qualified. -/
def writeAssignments (d : Dialect) (qualified : Bool) (assignments : List Assignment) :
    SqlWriter := do
  text " SET "
  commaSeparated (assignments.map fun a => do
    text (d.identifier a.column.name a.column.enclosed)
    text "="
    a.value.write d qualified)

/-- Writes a statement that adds a row. -/
def InsertTemplate.write (d : Dialect) (s : InsertTemplate) : SqlWriter := do
  text (s.target d)
  if d = .sqlServer then
    writeOutput "INSERTED" s.returning
  text " VALUES("
  Expr.writeCommaSeparated d false (s.assignments.map Assignment.value)
  text ")"
  if d = .postgres then
    writeReturning false s.returning

/-- Writes a statement that changes rows. -/
def UpdateOf.write (d : Dialect) (s : UpdateOf WrittenCondition) : SqlWriter := do
  let qualified := s.usesAliases WrittenCondition.hasSubquery
  text (s.target d qualified)
  writeAssignments d qualified s.assignments
  if d = .sqlServer then
    writeOutput "INSERTED" s.returning
  text (s.sourceClause d qualified)
  WrittenCondition.writeClause " WHERE " qualified s.filter?
  if d = .postgres then
    writeReturning qualified s.returning

/-- Writes a statement that removes rows. PostgreSQL has the conditions of the joins in front of
the statement's own. -/
def DeleteOf.write (d : Dialect) (s : DeleteOf WrittenCondition) : SqlWriter := do
  let qualified := s.usesAliases WrittenCondition.hasSubquery
  text (s.target d qualified)
  match d with
  | .sqlServer =>
    writeOutput "DELETED" s.returning
    text (s.sourceClause d qualified)
    if qualified then
      writeJoins d true s.joins
    WrittenCondition.writeClause " WHERE " qualified s.filter?
  | .postgres =>
    text (s.sourceClause d qualified)
    WrittenCondition.writeClause " WHERE " qualified
      (WrittenCondition.all? (s.joins.map Join.on ++ s.filter?.toList))
    writeReturning qualified s.returning

/-- Writes a statement whose conditions are written by programs. -/
def StatementOf.writeShape (d : Dialect) (outerQualified : Bool) :
    StatementOf WrittenCondition → SqlWriter
  | .select s => s.write d outerQualified
  | .insert s => s.write d
  | .update s => s.write d
  | .delete s => s.write d
  | .truncate table => do
    text "TRUNCATE TABLE "
    text (d.tableName table)

/-- Writes one level of a condition. -/
def Predicate.write (d : Dialect) (qualified : Bool) : Predicate WrittenCondition → SqlWriter
  | .compare op left right => do
    left.write d qualified
    text op.symbol
    right.write d qualified
  | .and left right => connected " AND " (left.write qualified) (right.write qualified)
  | .or left right => connected " OR " (left.write qualified) (right.write qualified)
  | .not inner => do
    text "NOT "
    (inner.write qualified).parenthesised
  | .between expr low high negated => do
    expr.write d qualified
    text (if negated then " NOT BETWEEN " else " BETWEEN ")
    low.write d qualified
    text " AND "
    high.write d qualified
  | .inList expr items negated => do
    expr.write d qualified
    text (if negated then " NOT IN(" else " IN(")
    Expr.writeCommaSeparated d qualified items
    text ")"
  | .inQuery expr query negated => do
    expr.write d qualified
    text (if negated then " NOT IN(" else " IN(")
    query.writeShape d qualified
    text ")"
  | .existsQuery query negated => do
    text (if negated then "NOT EXISTS(" else "EXISTS(")
    query.writeShape d qualified
    text ")"
  | .isNull expr negated => do
    expr.write d qualified
    text (if negated then " IS NOT NULL" else " IS NULL")
  | .like kind expr pattern => kind.write d (expr.write d qualified) (pattern.write d qualified)
  | .raw sql => text sql

/-- A condition with its programs. -/
def Condition.written (d : Dialect) : Condition → WrittenCondition :=
  Condition.fold fun p =>
    { hasSubquery := p.hasSubqueryWith WrittenCondition.hasSubquery
      write := fun qualified => p.write d qualified }

/-- Writes a condition. -/
def Condition.write (d : Dialect) (qualified : Bool) (c : Condition) : SqlWriter :=
  (c.written d).write qualified

/-- Writes a statement. -/
def StatementOf.write (d : Dialect) (s : Statement) : SqlWriter :=
  (s.map (Condition.written d)).writeShape d false

end TypedSql
