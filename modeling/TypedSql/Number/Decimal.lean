/-!
# Decimal numbers

Natural numbers below a bound, read from decimal digits.

## Main definitions

- `Decimal.read`: the number that a text spells, or what keeps it from spelling one.
- `Decimal.value`: the number that a run of digits denotes.
-/

namespace TypedSql

/-- Why a text is no number below a bound. -/
inductive DecimalError where
  | empty
  | invalidDigit
  | tooLarge
deriving DecidableEq, Repr

/-- The wording of the error. -/
def DecimalError.message : DecimalError → String
  | empty => "cannot parse integer from empty string"
  | invalidDigit => "invalid digit found in string"
  | tooLarge => "number too large to fit in target type"

namespace Decimal

/-- The number that a digit denotes after the number before it. -/
def push (n : Nat) (digit : Char) : Nat := 10 * n + (digit.toNat - '0'.toNat)

/-- The number that a run of digits denotes. -/
def value (digits : List Char) : Nat := digits.foldl push 0

/-- Reads digits after a number. The first character that is no digit, or that carries the number
to the bound, is the error. -/
def readDigits (bound n : Nat) : List Char → Except DecimalError Nat
  | [] => .ok n
  | c :: rest =>
    if !c.isDigit then .error .invalidDigit
    else if push n c < bound then readDigits bound (push n c) rest
    else .error .tooLarge

/-- The number below a bound that a text spells: digits, after a plus sign or not. -/
def read (bound : Nat) (text : List Char) : Except DecimalError Nat :=
  match text with
  | [] => .error .empty
  | ['+'] => .error .invalidDigit
  | '+' :: digits => readDigits bound 0 digits
  | digits => readDigits bound 0 digits

end Decimal

end TypedSql
