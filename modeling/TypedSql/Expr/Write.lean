import TypedSql.Expr.Render
import TypedSql.Output
/-!
# Writing expressions

The program that writes an expression. It writes what the fragment of the expression holds, in one
pass and with each value registered where its placeholder stands.

## Main definitions

- `Expr.write`: writes an expression.
-/

namespace TypedSql

open SqlWriter

/-- Writes a call whose arguments are written by programs. Counting all rows takes no argument. -/
def SqlFunction.writeCall (d : Dialect) (function : SqlFunction) (args : List SqlWriter) :
    SqlWriter := do
  if function = .countAll then
    text "COUNT(*)"
  else
    text (d.functionName function)
    text "("
    if function = .countDistinct then
      text "DISTINCT "
    commaSeparated args
    text ")"

namespace Expr

mutual

/-- Writes an expression. -/
def write (d : Dialect) (qualified : Bool) : Expr → SqlWriter
  | column c => text (d.columnReference qualified c)
  | value type v => binding d (.fixed type v)
  | slot index type => binding d (.slot index type)
  | call function args => function.writeCall d (writeList d qualified args)
  | arithmetic op left right => do
    text "("
    left.write d qualified
    text op.symbol
    right.write d qualified
    text ")"
  | raw sql => text sql

/-- The programs that write the expressions of a list. -/
def writeList (d : Dialect) (qualified : Bool) : List Expr → List SqlWriter
  | [] => []
  | e :: rest => e.write d qualified :: writeList d qualified rest

end

/-- Writes a list of expressions with commas between them. -/
def writeCommaSeparated (d : Dialect) (qualified : Bool) (es : List Expr) : SqlWriter :=
  commaSeparated (es.map (write d qualified))

end Expr

end TypedSql
