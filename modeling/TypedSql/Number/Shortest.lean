import TypedSql.Number.Binary
/-!
# Shortest decimal text of a binary number

A finite floating-point number is written with the fewest decimal digits that still read back as
the same number, positionally and without an exponent. Of two candidates with equally many digits
the nearer one is written, and of two equally near ones the larger.

## Main definitions

- `RoundingInterval`: the reals that round to a given number.
- `RoundingInterval.shortest`: the decimal that identifies the number.
- `Decimal.positional`: its digits with the point in place.

## Design notes

All reals are fractions over one common denominator, so that every comparison is between naturals.
The search tries the grids `10 ^ k` from the leading digit downwards; on each grid only the two
neighbours of the number can be the nearest point of the interval.
-/

namespace TypedSql

/-- The decimal `digits * 10 ^ exponent`. -/
structure Decimal where
  digits : Nat
  exponent : Int
deriving DecidableEq

/-- The reals that round to `centre / scale`; the ends belong to it when `closed`. -/
structure RoundingInterval where
  low : Nat
  centre : Nat
  high : Nat
  scale : Nat
  closed : Bool

/-- How many decimal digits a natural has; zero has none. -/
def decimalLength (n : Nat) : Nat :=
  if n = 0 then 0 else (Nat.toDigits 10 n).length

namespace RoundingInterval

/-- The interval of the positive number `significand * 2 ^ exponent` in a format: it reaches half
way to each neighbour, and below a power of two the neighbour is only half as far. The ends round
to the number exactly when its significand is even. -/
def ofFinite (f : BinaryFormat) (significand : Nat) (exponent : Int) : RoundingInterval :=
  let isNarrow := significand = Nat.pow 2 f.fractionBits ∧ f.leastExponent < exponent
  let factor := Nat.pow 2 (exponent - 2).toNat
  { low := (4 * significand - if isNarrow then 1 else 2) * factor
    centre := 4 * significand * factor
    high := (4 * significand + 2) * factor
    scale := Nat.pow 2 (2 - exponent).toNat
    closed := significand % 2 = 0 }

/-- Whether `count * 10 ^ place` lies in the interval. -/
def contains (i : RoundingInterval) (count : Nat) (place : Int) : Bool :=
  let point := count * Nat.pow 10 place.toNat * i.scale
  let low := i.low * Nat.pow 10 (-place).toNat
  let high := i.high * Nat.pow 10 (-place).toNat
  if i.closed then low ≤ point && point ≤ high else low < point && point < high

/-- The nearer of the centre's two neighbours on the grid `10 ^ place` that lie in the interval. -/
def nearestOnGrid? (i : RoundingInterval) (place : Int) : Option Nat :=
  let numerator := i.centre * Nat.pow 10 (-place).toNat
  let denominator := i.scale * Nat.pow 10 place.toNat
  let below := numerator / denominator
  let upperIsNearer := denominator ≤ 2 * (numerator % denominator)
  match i.contains below place, i.contains (below + 1) place with
  | true, true => some (if upperIsNearer then below + 1 else below)
  | true, false => some below
  | false, true => some (below + 1)
  | false, false => none

/-- The power of ten of the centre's leading digit. -/
def leadingPlace (i : RoundingInterval) : Int :=
  if i.scale ≤ i.centre then decimalLength (i.centre / i.scale) - 1
  else -(decimalLength ((i.scale - 1) / i.centre))

/-- The first of `fuel` ever finer grids, from `place` on, that has a point in the interval. -/
def search (i : RoundingInterval) (place : Int) : Nat → Option Decimal
  | 0 => none
  | fuel + 1 =>
    match i.nearestOnGrid? place with
    | some count => some ⟨count, place⟩
    | none => i.search (place - 1) fuel

/-- The centre itself, whose denominator is a power of two. -/
def exact (i : RoundingInterval) : Decimal :=
  ⟨i.centre * Nat.pow 5 i.scale.log2, -i.scale.log2⟩

/-- The decimal of fewest digits in the interval. Seventeen digits tell all numbers of 64 bits
apart, so the exact value is never needed. -/
def shortest (i : RoundingInterval) : Decimal :=
  (i.search i.leadingPlace 17).getD i.exact

end RoundingInterval

namespace Decimal

/-- The digits after the point, given how many places there are, without trailing zeros. -/
def fractionDigits (places : Nat) (fraction : Nat) : List Char :=
  let digits := Nat.toDigits 10 fraction
  let padded := List.replicate (places - digits.length) '0' ++ digits
  (padded.reverse.dropWhile (· == '0')).reverse

/-- The decimal written out with a point and without an exponent; a whole number has no point. -/
def positional (d : Decimal) : String :=
  if 0 ≤ d.exponent then toString (d.digits * Nat.pow 10 d.exponent.toNat)
  else
    let places := (-d.exponent).toNat
    let whole := toString (d.digits / Nat.pow 10 places)
    match fractionDigits places (d.digits % Nat.pow 10 places) with
    | [] => whole
    | fraction => whole ++ "." ++ String.ofList fraction

end Decimal

namespace BinaryFormat

/-- The text of a finite number: a sign, which zero may have too, and the shortest decimal. -/
def finiteText (f : BinaryFormat) (negative : Bool) (significand : Nat) (exponent : Int) : String :=
  let sign := if negative then "-" else ""
  let magnitude :=
    if significand = 0 then "0"
    else (RoundingInterval.ofFinite f significand exponent).shortest.positional
  sign ++ magnitude

end BinaryFormat

end TypedSql
