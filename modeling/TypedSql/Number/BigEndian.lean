/-!
# Integers as bytes

Integers of a fixed number of bytes, the highest first; negative ones as two's complements.

## Main definitions

- `BigEndian.ofNat`, `BigEndian.ofInt`: the bytes of a number.
- `BigEndian.toNat`, `BigEndian.toInt`: the number without and with a sign.
-/

namespace TypedSql.BigEndian

/-- The lowest `width` bytes of a natural. -/
def ofNat : Nat → Nat → List UInt8
  | 0, _ => []
  | width + 1, n => ofNat width (n / 256) ++ [.ofNat (n % 256)]

/-- The lowest `width` bytes of an integer. -/
def ofInt (width : Nat) (n : Int) : List UInt8 := ofNat width (n % (Nat.pow 256 width : Nat)).toNat

/-- The natural of these bytes. -/
def toNat (bytes : List UInt8) : Nat := bytes.foldl (fun n b => 256 * n + b.toNat) 0

/-- The integer of these bytes, of which the highest holds the sign. -/
def toInt (bytes : List UInt8) : Int := Int.bmod (toNat bytes) (Nat.pow 256 bytes.length)

end TypedSql.BigEndian
