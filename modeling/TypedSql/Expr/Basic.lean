import TypedSql.Table
/-!
# Expressions

Scalar expressions of a statement: columns, values, parameter slots, function calls, arithmetic
and text that is taken over as it is.

## Main definitions

- `Expr`: the expressions.
- `Expr.firstSlot?`: the first parameter slot, from left to right.
-/

namespace TypedSql

/-- The functions that a statement can call. A function without a builder is called by name. -/
inductive SqlFunction where
  | countAll
  | count
  | countDistinct
  | sum
  | avg
  | min
  | max
  | coalesce
  | lower
  | upper
  | length
  | currentTimestamp
  | newGuid
  | custom (name : String)
deriving DecidableEq, Repr

/-- The functions that each dialect has a name for. -/
def SqlFunction.known : List SqlFunction :=
  [countAll, count, countDistinct, sum, avg, min, max, coalesce, lower, upper, length,
    currentTimestamp, newGuid]

/-- The arithmetic operators. -/
inductive ArithmeticOp where
  | add
  | sub
  | mul
  | div
deriving DecidableEq, Repr

/-- The written operator. -/
def ArithmeticOp.symbol : ArithmeticOp → String
  | add => "+"
  | sub => "-"
  | mul => "*"
  | div => "/"

/-- A scalar expression. -/
inductive Expr where
  | column (c : Column)
  | value (type : SqlType) (v : Value)
  | slot (index : Nat) (type : SqlType)
  | call (function : SqlFunction) (args : List Expr)
  | arithmetic (op : ArithmeticOp) (left right : Expr)
  | raw (sql : String)

namespace Expr

mutual

/-- The first parameter slot from left to right, in arguments that are not written too. -/
def firstSlot? : Expr → Option Nat
  | slot index _ => some index
  | call _ args => firstSlotOfList? args
  | arithmetic _ left right => left.firstSlot?.or right.firstSlot?
  | column _ => none
  | value _ _ => none
  | raw _ => none

/-- The first parameter slot of a list of expressions. -/
def firstSlotOfList? : List Expr → Option Nat
  | [] => none
  | e :: rest => e.firstSlot?.or (firstSlotOfList? rest)

end

end Expr

end TypedSql
