/-!
# Hexadecimal digits

Bytes and identifiers are written as hexadecimal digits, in either letter case, and read in both.

## Main definitions

- `Hex.digit`, `Hex.digitValue?`: one digit and the number it stands for.
- `Hex.ofBytes`, `Hex.bytes?`: two digits for each byte, and the way back.
- `Hex.ofNat`: a natural without leading zeros.
-/

namespace TypedSql.Hex

/-- The letter case of the digits above nine. -/
inductive LetterCase where
  | lower
  | upper
deriving DecidableEq

/-- The digit for a number below sixteen. -/
def digit (letterCase : LetterCase) (n : Nat) : Char :=
  if n < 10 then Char.ofNat ('0'.toNat + n)
  else match letterCase with
    | .lower => Char.ofNat ('a'.toNat + (n - 10))
    | .upper => Char.ofNat ('A'.toNat + (n - 10))

/-- The number that a digit of either letter case stands for. -/
def digitValue? (c : Char) : Option Nat :=
  if '0' ≤ c ∧ c ≤ '9' then some (c.toNat - '0'.toNat)
  else if 'a' ≤ c ∧ c ≤ 'f' then some (c.toNat - 'a'.toNat + 10)
  else if 'A' ≤ c ∧ c ≤ 'F' then some (c.toNat - 'A'.toNat + 10)
  else none

/-- Two digits for each byte, the higher half first. -/
def ofBytes (letterCase : LetterCase) (bytes : List UInt8) : List Char :=
  bytes.flatMap fun b => [digit letterCase (b.toNat / 16), digit letterCase (b.toNat % 16)]

/-- The number that a run of digits stands for, or nothing if one of them is no digit. -/
def value? (digits : List Char) : Option Nat :=
  digits.foldlM (fun n c => (digitValue? c).map (16 * n + ·)) 0

/-- The bytes that pairs of digits stand for. -/
def bytes? : List Char → Option (List UInt8)
  | high :: low :: rest => return .ofNat (← value? [high, low]) :: (← bytes? rest)
  | [] => some []
  | _ => none

/-- The lower-case digits of a natural, without leading zeros. -/
def ofNat (n : Nat) : List Char := Nat.toDigits 16 n

/-- The last `count` lower-case digits of a natural, with leading zeros. -/
def ofNatPadded (count n : Nat) : List Char :=
  match count with
  | 0 => []
  | count + 1 => ofNatPadded count (n / 16) ++ [digit .lower (n % 16)]

end TypedSql.Hex
