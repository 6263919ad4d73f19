import TypedSql.Expr.Render
import TypedSql.Statement.ClauseText
import TypedSql.Statement.Condition
/-!
# Rendered statements

A statement as a fragment of SQL in either dialect. Where a statement involves several tables, or
nests another statement, its tables are declared with aliases and its columns are qualified by
them; a nested selection is qualified whenever the statement around it is.

## Main definitions

- `RenderedCondition`: a condition whose fragment is known for both ways of naming columns.
- `Condition.render`, `StatementOf.render`: the fragments of conditions and statements.

## Design notes

The clause functions work on shapes that hold rendered conditions, so rendering a condition is a
fold and rendering a statement needs no recursion of its own. The dialects differ in how they limit
rows (`TOP`, `LIMIT`), return changed rows (`OUTPUT`, `RETURNING`), name a changed table beside
others, ignore letter case in patterns, and in which advice they take.
-/

namespace TypedSql

/-- A condition with its fragment, given whether columns are qualified. -/
structure RenderedCondition where
  hasSubquery : Bool
  fragment : Bool → Fragment

/-- Two fragments in parentheses with a connective between them. -/
def Fragment.connected (connective : String) (left right : Fragment) : Fragment :=
  left.parenthesised ++ .ofText connective ++ right.parenthesised

/-- Text in front of a comma-separated list, which vanishes with the list. -/
def Fragment.listAfter (opening : String) (fragments : List Fragment) : Fragment :=
  if fragments.isEmpty then [] else .ofText opening ++ .commaSeparated fragments

namespace RenderedCondition

/-- The conjunction of two rendered conditions. -/
def and (left right : RenderedCondition) : RenderedCondition where
  hasSubquery := left.hasSubquery || right.hasSubquery
  fragment q := Fragment.connected " AND " (left.fragment q) (right.fragment q)

/-- The conjunction of a list, nested to the left. -/
def all? : List RenderedCondition → Option RenderedCondition
  | [] => none
  | c :: rest => some (rest.foldl and c)

/-- A keyword and the condition, if there is one. -/
def clause (keyword : String) (qualified : Bool) : Option RenderedCondition → Fragment
  | none => []
  | some c => .ofText keyword ++ c.fragment qualified

end RenderedCondition

/-- A pattern match. SQL Server ignores letter case by comparing lower-case forms. -/
def PatternMatch.render (d : Dialect) (kind : PatternMatch) (expr pattern : Fragment) : Fragment :=
  match d, kind.ignoresCase with
  | .postgres, true =>
    expr ++ .ofText (if kind.negated then " NOT ILIKE " else " ILIKE ") ++ pattern
  | .sqlServer, true =>
    .ofText "LOWER" ++ expr.parenthesised
      ++ .ofText (if kind.negated then " NOT LIKE LOWER" else " LIKE LOWER")
      ++ pattern.parenthesised
  | _, false => expr ++ .ofText (if kind.negated then " NOT LIKE " else " LIKE ") ++ pattern

/-- The joins of a statement that declares tables with or without aliases. -/
def renderJoins (d : Dialect) (qualified : Bool) (joins : List (Join RenderedCondition)) :
    Fragment :=
  joins.flatMap fun j =>
    Fragment.ofText (" " ++ j.kind.sql ++ " " ++ d.tableReference qualified j.table ++ " ON ")
      ++ j.on.fragment qualified

namespace SelectBody

/-- One selection without its limit in PostgreSQL. -/
def render (d : Dialect) (qualified : Bool) (b : SelectBody RenderedCondition) : Fragment :=
  .ofText (b.opening d) ++ Expr.renderCommaSeparated d qualified b.fields
    ++ .ofText (b.sourceClause d qualified) ++ renderJoins d qualified b.joins
    ++ RenderedCondition.clause " WHERE " qualified b.filter?
    ++ .listAfter " GROUP BY " (b.groupBy.map (Expr.render d qualified))
    ++ RenderedCondition.clause " HAVING " qualified b.having?

/-- One selection of a chain of several. PostgreSQL needs parentheses around a limited one. -/
def renderInChain (d : Dialect) (qualified : Bool) (b : SelectBody RenderedCondition) : Fragment :=
  match d, b.top? with
  | .postgres, some n =>
    (b.render d qualified ++ .ofText (" LIMIT " ++ toString n)).parenthesised
  | _, _ => b.render d qualified

end SelectBody

/-- A term of an order. -/
def OrderTerm.render (d : Dialect) (qualified : Bool) (term : OrderTerm) : Fragment :=
  term.expr.render d qualified ++ match term.order with
    | .ascending => []
    | .descending => .ofText " DESC"

namespace SelectOf

/-- The chain of selections. -/
def renderParts (d : Dialect) (qualified : Bool) (s : SelectOf RenderedCondition) : Fragment :=
  if s.unions.isEmpty then s.head.render d qualified
  else
    s.head.renderInChain d qualified ++ s.unions.flatMap fun (operator, body) =>
      Fragment.ofText (" " ++ operator.sql ++ " ") ++ body.renderInChain d qualified

/-- A chain of selections. The order of a chain of several refers to the columns of the result,
which have no alias. -/
def render (d : Dialect) (outerQualified : Bool) (s : SelectOf RenderedCondition) : Fragment :=
  let qualified := outerQualified || s.usesAliases RenderedCondition.hasSubquery
  s.renderParts d qualified
    ++ .listAfter " ORDER BY " (s.orderBy.map (OrderTerm.render d (qualified && s.unions.isEmpty)))
    ++ .ofText (s.closing d qualified)

end SelectOf

/-- A field of the rows that SQL Server returns. A column is qualified by whether rows are returned
as they became or as they were; within an expression columns stay bare. -/
def renderOutputField (rows : String) : Expr → Fragment
  | .column c => .ofText (rows ++ "." ++ Dialect.sqlServer.identifier c.name c.enclosed)
  | e => e.render .sqlServer false

/-- The returned fields of SQL Server. -/
def outputClause (rows : String) (fields : List Expr) : Fragment :=
  .listAfter " OUTPUT " (fields.map (renderOutputField rows))

/-- The returned fields of PostgreSQL. -/
def returningClause (qualified : Bool) (fields : List Expr) : Fragment :=
  .listAfter " RETURNING " (fields.map (Expr.render .postgres qualified))

/-- A list of assignments; their targets are never qualified. -/
def renderAssignments (d : Dialect) (qualified : Bool) (assignments : List Assignment) : Fragment :=
  .ofText " SET " ++ .commaSeparated (assignments.map fun a =>
    Fragment.ofText (d.identifier a.column.name a.column.enclosed ++ "=")
      ++ a.value.render d qualified)

/-- A statement that adds a row. -/
def InsertTemplate.render (d : Dialect) (s : InsertTemplate) : Fragment :=
  let values :=
    Fragment.ofText " VALUES"
      ++ (Expr.renderCommaSeparated d false (s.assignments.map Assignment.value)).parenthesised
  match d with
  | .sqlServer => .ofText (s.target d) ++ outputClause "INSERTED" s.returning ++ values
  | .postgres => .ofText (s.target d) ++ values ++ returningClause false s.returning

/-- A statement that changes rows. -/
def UpdateOf.render (d : Dialect) (s : UpdateOf RenderedCondition) : Fragment :=
  let qualified := s.usesAliases RenderedCondition.hasSubquery
  let changes :=
    Fragment.ofText (s.target d qualified) ++ renderAssignments d qualified s.assignments
  let sources := Fragment.ofText (s.sourceClause d qualified)
  let filter := RenderedCondition.clause " WHERE " qualified s.filter?
  match d with
  | .sqlServer => changes ++ outputClause "INSERTED" s.returning ++ sources ++ filter
  | .postgres => changes ++ sources ++ filter ++ returningClause qualified s.returning

/-- A statement that removes rows. PostgreSQL lists the joined tables apart from their conditions,
which come before the statement's own. -/
def DeleteOf.render (d : Dialect) (s : DeleteOf RenderedCondition) : Fragment :=
  let qualified := s.usesAliases RenderedCondition.hasSubquery
  let target := Fragment.ofText (s.target d qualified)
  let sources := Fragment.ofText (s.sourceClause d qualified)
  match d with
  | .sqlServer =>
    target ++ outputClause "DELETED" s.returning ++ sources
      ++ (if qualified then renderJoins d true s.joins else [])
      ++ RenderedCondition.clause " WHERE " qualified s.filter?
  | .postgres =>
    let filter? := RenderedCondition.all? (s.joins.map Join.on ++ s.filter?.toList)
    target ++ sources ++ RenderedCondition.clause " WHERE " qualified filter?
      ++ returningClause qualified s.returning

/-- A statement whose conditions are rendered. Only a selection takes over how the statement around
it names columns. -/
def StatementOf.renderShape (d : Dialect) (outerQualified : Bool) :
    StatementOf RenderedCondition → Fragment
  | .select s => s.render d outerQualified
  | .insert s => s.render d
  | .update s => s.render d
  | .delete s => s.render d
  | .truncate table => .ofText ("TRUNCATE TABLE " ++ d.tableName table)

/-- One level of a condition. -/
def Predicate.fragment (d : Dialect) (qualified : Bool) : Predicate RenderedCondition → Fragment
  | .compare op left right =>
    left.render d qualified ++ .ofText op.symbol ++ right.render d qualified
  | .and left right => .connected " AND " (left.fragment qualified) (right.fragment qualified)
  | .or left right => .connected " OR " (left.fragment qualified) (right.fragment qualified)
  | .not inner => .ofText "NOT " ++ (inner.fragment qualified).parenthesised
  | .between expr low high negated =>
    expr.render d qualified ++ .ofText (if negated then " NOT BETWEEN " else " BETWEEN ")
      ++ low.render d qualified ++ .ofText " AND " ++ high.render d qualified
  | .inList expr items negated =>
    expr.render d qualified ++ .ofText (if negated then " NOT IN" else " IN")
      ++ (Expr.renderCommaSeparated d qualified items).parenthesised
  | .inQuery expr query negated =>
    expr.render d qualified ++ .ofText (if negated then " NOT IN" else " IN")
      ++ (query.renderShape d qualified).parenthesised
  | .existsQuery query negated =>
    .ofText (if negated then "NOT EXISTS" else "EXISTS")
      ++ (query.renderShape d qualified).parenthesised
  | .isNull expr negated =>
    expr.render d qualified ++ .ofText (if negated then " IS NOT NULL" else " IS NULL")
  | .like kind expr pattern =>
    kind.render d (expr.render d qualified) (pattern.render d qualified)
  | .raw sql => .ofText sql

/-- A condition with its fragments. -/
def Condition.rendered (d : Dialect) : Condition → RenderedCondition :=
  Condition.fold fun p =>
    { hasSubquery := p.hasSubqueryWith RenderedCondition.hasSubquery
      fragment := fun qualified => p.fragment d qualified }

/-- The fragment of a condition. -/
def Condition.render (d : Dialect) (qualified : Bool) (c : Condition) : Fragment :=
  (c.rendered d).fragment qualified

/-- The fragment of a statement. -/
def StatementOf.render (d : Dialect) (s : Statement) : Fragment :=
  (s.map (Condition.rendered d)).renderShape d false

end TypedSql
