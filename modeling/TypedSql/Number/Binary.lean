/-!
# Binary floating-point numbers

A floating-point column holds a number in one of two binary interchange formats. This file reads
such a number off its bits and writes the nearest number of a format, halves going to the even
neighbour, so that conversions between the formats and from integers are exact arithmetic on
naturals.

## Main definitions

- `BinaryFormat`: how many bits hold the exponent and the fraction.
- `BinaryDatum`: what the bits of a format denote.
- `BinaryFormat.decode`, `BinaryFormat.encode`: between bits and what they denote.
- `Binary32`, `Binary64`: the numbers of the two formats, given by their bits.

## Design notes

A finite datum is `significand * 2 ^ exponent` with a sign, and any such product may be encoded:
narrowing and integer conversion are both "encode what was decoded".
Powers are spelled `Nat.pow`, which means the same whatever else is imported.
-/

namespace TypedSql

/-- The widths of the two fields below the sign bit. -/
structure BinaryFormat where
  fractionBits : Nat
  exponentBits : Nat

/-- What the bits of a floating-point number denote. -/
inductive BinaryDatum where
  | nan
  | infinite (negative : Bool)
  | finite (negative : Bool) (significand : Nat) (exponent : Int)
deriving DecidableEq

/-- The quotient rounded to the nearest natural; a half goes to the even neighbour. -/
def roundHalfEven (numerator denominator : Nat) : Nat :=
  let quotient := numerator / denominator
  let twice := 2 * (numerator % denominator)
  if twice < denominator then quotient
  else if denominator < twice then quotient + 1
  else quotient + quotient % 2

namespace BinaryFormat

/-- The format of 32 bits. -/
def single : BinaryFormat := ⟨23, 8⟩

/-- The format of 64 bits. -/
def double : BinaryFormat := ⟨52, 11⟩

/-- The exponent that belongs to the last place of the smallest numbers. -/
def leastExponent (f : BinaryFormat) : Int :=
  2 - (Nat.pow 2 (f.exponentBits - 1) : Nat) - f.fractionBits

/-- The magnitude bits of infinity: an exponent field of ones over an empty fraction. -/
def infinityBits (f : BinaryFormat) : Nat :=
  (Nat.pow 2 f.exponentBits - 1) * Nat.pow 2 f.fractionBits

/-- The sign bit. -/
def signBit (f : BinaryFormat) : Nat := Nat.pow 2 (f.exponentBits + f.fractionBits)

/-- What the bits denote. -/
def decode (f : BinaryFormat) (bits : Nat) : BinaryDatum :=
  let negative := f.signBit ≤ bits
  let magnitude := bits % f.signBit
  let field := magnitude / Nat.pow 2 f.fractionBits
  let fraction := magnitude % Nat.pow 2 f.fractionBits
  if f.infinityBits < magnitude then .nan
  else if magnitude = f.infinityBits then .infinite negative
  else if field = 0 then .finite negative fraction f.leastExponent
  else .finite negative (Nat.pow 2 f.fractionBits + fraction) (f.leastExponent + (field - 1))

/-- The magnitude bits of the number nearest to `significand * 2 ^ exponent`. The last place of
the result is the one that leaves `fractionBits` bits below the leading one, but never finer than
the format's finest; counting the places above the finest in steps of the fraction's size makes a
carry out of the fraction land in the exponent field. -/
def encodeMagnitude (f : BinaryFormat) (significand : Nat) (exponent : Int) : Nat :=
  if significand = 0 then 0
  else
    let place := max (exponent + significand.log2 - f.fractionBits) f.leastExponent
    let shift := place - exponent
    let rounded :=
      if shift ≤ 0 then significand * Nat.pow 2 (-shift).toNat
      else roundHalfEven significand (Nat.pow 2 shift.toNat)
    min f.infinityBits ((place - f.leastExponent).toNat * Nat.pow 2 f.fractionBits + rounded)

/-- The bits of the number nearest to a datum. -/
def encode (f : BinaryFormat) : BinaryDatum → Nat
  | .nan => f.infinityBits + Nat.pow 2 (f.fractionBits - 1)
  | .infinite negative => (if negative then f.signBit else 0) + f.infinityBits
  | .finite negative significand exponent =>
    (if negative then f.signBit else 0) + f.encodeMagnitude significand exponent

end BinaryFormat

/-- A number of 32 bits. -/
structure Binary32 where
  bits : UInt32
deriving DecidableEq

/-- A number of 64 bits. -/
structure Binary64 where
  bits : UInt64
deriving DecidableEq

namespace BinaryDatum

/-- An integer as a datum. -/
def ofInt (n : Int) : BinaryDatum := .finite (n < 0) n.natAbs 0

end BinaryDatum

namespace Binary32

/-- Positive zero. -/
def zero : Binary32 := ⟨0⟩

/-- What the number denotes. -/
def datum (x : Binary32) : BinaryDatum := BinaryFormat.single.decode x.bits.toNat

/-- The number nearest to a datum. -/
def ofDatum (d : BinaryDatum) : Binary32 := ⟨.ofNat (BinaryFormat.single.encode d)⟩

end Binary32

namespace Binary64

/-- Positive zero. -/
def zero : Binary64 := ⟨0⟩

/-- What the number denotes. -/
def datum (x : Binary64) : BinaryDatum := BinaryFormat.double.decode x.bits.toNat

/-- The number nearest to a datum. -/
def ofDatum (d : BinaryDatum) : Binary64 := ⟨.ofNat (BinaryFormat.double.encode d)⟩

end Binary64

end TypedSql
