import TypedSql.Expr.Basic
/-!
# Clauses

The parts that statements are made of. A part that holds conditions is generic in what a condition
is, so that the same shapes hold conditions, their rendered forms and what else is computed from
them.

## Main definitions

- `Join`, `OrderTerm`, `RowLock`, `Assignment`: the clauses with content.
- `TableHint`, `QueryOption`, `SetOperator`: the words of the others.
-/

namespace TypedSql

/-- Whether rows without a partner are dropped or kept. -/
inductive JoinKind where
  | inner
  | left
deriving DecidableEq, Repr

/-- The written kind. -/
def JoinKind.sql : JoinKind → String
  | inner => "INNER JOIN"
  | left => "LEFT JOIN"

/-- A joined table and its condition. -/
structure Join (γ : Type) where
  kind : JoinKind
  table : Table
  on : γ

/-- The direction of an order. -/
inductive SortOrder where
  | ascending
  | descending
deriving DecidableEq

/-- A term of an order. -/
structure OrderTerm where
  expr : Expr
  order : SortOrder

/-- Locking advice for a table in SQL Server. -/
inductive TableHint where
  | noLock
  | updLock
  | rowLock
  | readPast
  | holdLock
  | noWait
deriving DecidableEq

/-- The written hint. -/
def TableHint.sql : TableHint → String
  | noLock => "NOLOCK"
  | updLock => "UPDLOCK"
  | rowLock => "ROWLOCK"
  | readPast => "READPAST"
  | holdLock => "HOLDLOCK"
  | noWait => "NOWAIT"

/-- The hints that there are. -/
def TableHint.all : List TableHint := [noLock, updLock, rowLock, readPast, holdLock, noWait]

/-- Advice for the plan of a query in SQL Server. -/
inductive QueryOption where
  | recompile
  | optimizeForUnknown
  | maxDop (n : Nat)
  | fast (n : Nat)
deriving DecidableEq

/-- The written option. -/
def QueryOption.sql : QueryOption → String
  | recompile => "RECOMPILE"
  | optimizeForUnknown => "OPTIMIZE FOR UNKNOWN"
  | maxDop n => "MAXDOP " ++ toString n
  | fast n => "FAST " ++ toString n

/-- How strong the locks on selected rows are in PostgreSQL. -/
inductive LockStrength where
  | update
  | noKeyUpdate
  | share
deriving DecidableEq, Repr

/-- What happens when a row is locked already. -/
inductive LockWait where
  | wait
  | noWait
  | skipLocked
deriving DecidableEq

/-- Locks on the selected rows, of some tables or of all. -/
structure RowLock where
  strength : LockStrength
  tables : List Table := []
  wait : LockWait := .wait

/-- How the parts of a chain of selections are united. -/
inductive SetOperator where
  | union
  | unionAll
deriving DecidableEq

/-- The written operator. -/
def SetOperator.sql : SetOperator → String
  | union => "UNION"
  | unionAll => "UNION ALL"

/-- A column and its new value. -/
structure Assignment where
  column : Column
  value : Expr

/-- The kinds of statements. -/
inductive StatementKind where
  | select
  | insert
  | update
  | delete
  | truncate
deriving DecidableEq

/-- The first word of a statement of the kind. -/
def StatementKind.sql : StatementKind → String
  | select => "SELECT"
  | insert => "INSERT"
  | update => "UPDATE"
  | delete => "DELETE"
  | truncate => "TRUNCATE"

/-- The kinds that there are. -/
def StatementKind.all : List StatementKind := [select, insert, update, delete, truncate]

end TypedSql
