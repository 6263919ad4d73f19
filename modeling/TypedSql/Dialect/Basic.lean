/-!
# SQL dialects

The two dialects that statements are written in.

## Main definitions

- `Dialect`: SQL Server and PostgreSQL.
- `PlaceholderStyle`: how the parameters of a statement are spelled.
-/

namespace TypedSql

/-- The databases that SQL is written for. -/
inductive Dialect where
  | sqlServer
  | postgres
deriving DecidableEq

/-- The spellings of parameters: numbered from zero after an at sign, or from one after a dollar
sign. -/
inductive PlaceholderStyle where
  | atZero
  | dollarOne
deriving DecidableEq

/-- The placeholder of the parameter at a position. -/
def PlaceholderStyle.placeholder (style : PlaceholderStyle) (position : Nat) : String :=
  match style with
  | atZero => "@" ++ toString position
  | dollarOne => "$" ++ toString (position + 1)

namespace Dialect

/-- The dialects that there are. -/
def all : List Dialect := [sqlServer, postgres]

/-- The name of the dialect. -/
def name : Dialect → String
  | sqlServer => "sqlserver"
  | postgres => "postgres"

/-- How the dialect spells parameters. -/
def placeholderStyle : Dialect → PlaceholderStyle
  | sqlServer => .atZero
  | postgres => .dollarOne

end Dialect

end TypedSql
