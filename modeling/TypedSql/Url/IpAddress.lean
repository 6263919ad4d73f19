import TypedSql.Number.Decimal
import TypedSql.Text.Hex
/-!
# Numeric addresses of hosts

The spellings of numeric addresses: four numbers of eight bits between points, or eight groups of
sixteen bits between colons, of which one run of zeros may be left out.

## Main definitions

- `IpAddress.isDottedQuad`: the plain spelling of four numbers.
- `IpAddress.isGroups`: the spelling of eight groups.
- `IpAddress.endsInNumber`, `IpAddress.isShorthand`: the lenient spelling of four numbers, where
  any of them may be octal or hexadecimal and the last one fills up what is missing, and the names
  that can be nothing else.
-/

namespace TypedSql.IpAddress

/-- A number of eight bits without needless zeros. -/
def isOctet (digits : List Char) : Bool :=
  digits ≠ [] && digits.all Char.isDigit && (digits.head? ≠ some '0' || digits.length = 1)
    && Decimal.value digits < 256

/-- Four numbers of eight bits, between points. -/
def isDottedQuad (text : List Char) : Bool :=
  let parts := text.splitOnP (· = '.')
  parts.length = 4 && parts.all isOctet

/-- A group of sixteen bits: up to four hexadecimal digits. -/
def isGroup (digits : List Char) : Bool :=
  digits ≠ [] && digits.length ≤ 4 && (Hex.value? digits).isSome

/-- The number of groups that parts between colons spell. The last two can be four numbers. -/
def groupCount? : List (List Char) → Option Nat
  | [] => some 0
  | [part] => if isGroup part then some 1 else if isDottedQuad part then some 2 else none
  | part :: parts => if isGroup part then (groupCount? parts).map (· + 1) else none

/-- The parts of a text between colons; none if there is no text. -/
def colonParts (text : List Char) : List (List Char) :=
  if text = [] then [] else text.splitOnP (· = ':')

/-- What stands before the first two colons in a row, and after them if there are any. -/
def cutAtGap : List Char → List Char × Option (List Char)
  | ':' :: ':' :: rest => ([], some rest)
  | c :: rest =>
    let (before, after?) := cutAtGap rest
    (c :: before, after?)
  | [] => ([], none)

/-- Eight groups of sixteen bits between colons. Two colons in a row stand for the groups that are
missing, of which there is one at least. -/
def isGroups (text : List Char) : Bool :=
  match cutAtGap text with
  | (all, none) => groupCount? (colonParts all) = some 8
  | (before, some after) =>
    let first := colonParts before
    first.all isGroup && (groupCount? (colonParts after)).any (first.length + · < 8)

/-- The number that digits of a base denote. -/
def valueIn? (base : Nat) (digits : List Char) : Option Nat :=
  digits.foldlM
    (fun n c => ((Hex.digitValue? c).filter (· < base)).map (base * n + ·)) 0

/-- A number in lenient spelling: hexadecimal after `0x`, octal after another zero, and decimal
otherwise. -/
def number? : List Char → Option Nat
  | [] => none
  | '0' :: 'x' :: digits => valueIn? 16 digits
  | '0' :: digits => valueIn? 8 digits
  | digits => valueIn? 10 digits

/-- The parts of a name between points, apart from nothing after the last one. -/
def pointParts (name : List Char) : List (List Char) :=
  let parts := name.splitOnP (· = '.')
  if parts.length ≠ 1 ∧ parts.getLast? = some [] then parts.dropLast else parts

/-- Whether the last part of a name in lower case is a number, so that it must be an address. -/
def endsInNumber (name : List Char) : Bool :=
  (pointParts name).getLast?.any fun part =>
    (part ≠ [] && part.all Char.isDigit) || (number? part).isSome

/-- Up to four numbers in lenient spelling, between points. All but the last have eight bits, and
the last one has the bits that are left. -/
def isShorthand (name : List Char) : Bool :=
  let parts := pointParts name
  let isBelow (bound : Nat) (part : List Char) := (number? part).any (· < bound)
  parts.length ≤ 4 && parts.dropLast.all (isBelow 256)
    && parts.getLast?.any (isBelow (Nat.pow 256 (5 - parts.length)))

end TypedSql.IpAddress
