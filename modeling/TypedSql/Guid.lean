import TypedSql.Text.Hex
/-!
# Globally unique identifiers

A GUID is a number of 128 bits. It is written as 32 lower-case hexadecimal digits in groups of
8, 4, 4, 4 and 12, and read in four spellings: grouped, grouped in braces, grouped after
`urn:uuid:`, and as 32 digits without groups.

## Main definitions

- `Guid`: the identifier.
- `Guid.text`: the grouped spelling.
- `Guid.parse?`: reads any of the spellings.
-/

namespace TypedSql

/-- An identifier of 128 bits. -/
structure Guid where
  bits : BitVec 128
deriving DecidableEq

namespace Guid

/-- The identifier that marks the absence of one. -/
def nil : Guid := ⟨0⟩

/-- Puts hyphens between the groups of 8, 4, 4, 4 and 12 digits. -/
def group (digits : List Char) : List Char :=
  digits.take 8 ++ '-' :: (digits.drop 8).take 4 ++ '-' :: (digits.drop 12).take 4
    ++ '-' :: (digits.drop 16).take 4 ++ '-' :: digits.drop 20

/-- The grouped spelling. -/
def text (g : Guid) : String :=
  String.ofList (group (Hex.ofNatPadded 32 g.bits.toNat))

/-- Reads 32 digits. -/
def ofDigits? (digits : List Char) : Option Guid :=
  if digits.length = 32 then (Hex.value? digits).map fun n => ⟨.ofNat 128 n⟩ else none

/-- Reads the grouped spelling: taking the hyphens out and putting them back changes nothing. -/
def ofGrouped? (cs : List Char) : Option Guid :=
  let digits := cs.filter (· != '-')
  if group digits = cs then ofDigits? digits else none

/-- What a spelling as a resource name begins with, in any letter case. -/
def resourcePrefix : List Char := "urn:uuid:".toList

/-- Reads an identifier in any of its spellings. -/
def parse? (s : String) : Option Guid :=
  let cs := s.toList
  if (cs.take 9).map Char.toLower = resourcePrefix then ofGrouped? (cs.drop 9)
  else match cs with
    | '\x7b' :: rest =>
      if rest.getLast? = some '\x7d' then ofGrouped? rest.dropLast else none
    | _ => (ofGrouped? cs).or (ofDigits? cs)

end Guid

end TypedSql
