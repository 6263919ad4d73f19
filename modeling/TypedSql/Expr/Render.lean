import TypedSql.Dialect.Identifier
import TypedSql.Expr.Basic
import TypedSql.Fragment
/-!
# Rendered expressions

An expression as a fragment of SQL. Columns are qualified by the alias of their table where the
statement declares aliases; arithmetic always has parentheses.

## Main definitions

- `Dialect.functionName`: the name of a function in a dialect.
- `Expr.render`: the fragment of an expression.
-/

namespace TypedSql

/-- The name of a function. -/
def Dialect.functionName (d : Dialect) : SqlFunction → String
  | .countAll => "COUNT"
  | .count => "COUNT"
  | .countDistinct => "COUNT"
  | .sum => "SUM"
  | .avg => "AVG"
  | .min => "MIN"
  | .max => "MAX"
  | .coalesce => "COALESCE"
  | .lower => "LOWER"
  | .upper => "UPPER"
  | .length =>
    match d with
    | sqlServer => "LEN"
    | postgres => "LENGTH"
  | .currentTimestamp =>
    match d with
    | sqlServer => "GETDATE"
    | postgres => "NOW"
  | .newGuid =>
    match d with
    | sqlServer => "NEWID"
    | postgres => "gen_random_uuid"
  | .custom name => name

/-- A call with rendered arguments. Counting all rows takes no argument. -/
def SqlFunction.renderCall (d : Dialect) (function : SqlFunction) (args : List Fragment) :
    Fragment :=
  match function with
  | .countAll => .ofText "COUNT" ++ (Fragment.ofText "*").parenthesised
  | .countDistinct =>
    .ofText (d.functionName function)
      ++ (Fragment.ofText "DISTINCT " ++ .commaSeparated args).parenthesised
  | _ => .ofText (d.functionName function) ++ (Fragment.commaSeparated args).parenthesised

namespace Expr

mutual

/-- The fragment of an expression. -/
def render (d : Dialect) (qualified : Bool) : Expr → Fragment
  | column c => .ofText (d.columnReference qualified c)
  | value type v => [.binding (.fixed type v)]
  | slot index type => [.binding (.slot index type)]
  | call function args => function.renderCall d (renderList d qualified args)
  | arithmetic op left right =>
    (left.render d qualified ++ .ofText op.symbol ++ right.render d qualified).parenthesised
  | raw sql => .ofText sql

/-- The fragments of a list of expressions. -/
def renderList (d : Dialect) (qualified : Bool) : List Expr → List Fragment
  | [] => []
  | e :: rest => e.render d qualified :: renderList d qualified rest

end

theorem renderList_eq_map (d : Dialect) (qualified : Bool) (es : List Expr) :
    renderList d qualified es = es.map (render d qualified) := by
  induction es with
  | nil => rfl
  | cons e es ih => simp [renderList, ih]

/-- A list of expressions with commas between them. -/
def renderCommaSeparated (d : Dialect) (qualified : Bool) (es : List Expr) : Fragment :=
  .commaSeparated (es.map (render d qualified))

end Expr

end TypedSql
