/-!
# UTF-8

Reading text from bytes, with the place of the first error.

## Main definitions

- `Utf8Error`: what is wrong with the bytes, and from where on.
- `Utf8.decode`: the characters, or the first error.
- `Utf8.decodeLossy`: the characters, with a mark in place of what begins none.

## Design notes

Every sequence is decided by its first byte, which also restricts the second one: overlong forms,
surrogates and numbers beyond the last character are refused there.
-/

namespace TypedSql

/-- Why bytes are no text. -/
inductive Utf8Error where
  /-- So many bytes from an index on begin no character. -/
  | invalid (index length : Nat)
  /-- The bytes end within a character that begins at an index. -/
  | incomplete (index : Nat)
deriving DecidableEq, Repr

/-- The wording of the error. -/
def Utf8Error.message : Utf8Error → String
  | invalid index length =>
    "invalid utf-8 sequence of " ++ toString length ++ " bytes from index " ++ toString index
  | incomplete index => "incomplete utf-8 byte sequence from index " ++ toString index

namespace Utf8

/-- The ranges of the bytes that follow a first byte, if it begins a character. -/
def followers? (b : Nat) : Option (List (Nat × Nat)) :=
  let any := (0x80, 0xBF)
  if b < 0x80 then some []
  else if b < 0xC2 then none
  else if b < 0xE0 then some [any]
  else if b = 0xE0 then some [(0xA0, 0xBF), any]
  else if b = 0xED then some [(0x80, 0x9F), any]
  else if b < 0xF0 then some [any, any]
  else if b = 0xF0 then some [(0x90, 0xBF), any, any]
  else if b < 0xF4 then some [any, any, any]
  else if b = 0xF4 then some [(0x80, 0x8F), any, any]
  else none

/-- The part of the character's number that the first byte holds. -/
def leading (b : Nat) : Nat :=
  if b < 0x80 then b else if b < 0xE0 then b % 0x20 else if b < 0xF0 then b % 0x10 else b % 0x08

/-- Reads the bytes that follow, after `length` bytes of a character at `index`. -/
def readFollowers (index length number : Nat) :
    List (Nat × Nat) → List UInt8 → Except Utf8Error Nat
  | [], _ => .ok number
  | _ :: _, [] => .error (.incomplete index)
  | (low, high) :: ranges, b :: bytes =>
    if low ≤ b.toNat ∧ b.toNat ≤ high then
      readFollowers index (length + 1) (number * 0x40 + b.toNat % 0x40) ranges bytes
    else .error (.invalid index length)

/-- The characters of the bytes from an index on. -/
def decodeFrom (index : Nat) (bytes : List UInt8) : Except Utf8Error (List Char) :=
  match bytes with
  | [] => .ok []
  | b :: rest =>
    match followers? b.toNat with
    | none => .error (.invalid index 1)
    | some ranges =>
      match readFollowers index 1 (leading b.toNat) ranges rest with
      | .error e => .error e
      | .ok number =>
        (decodeFrom (index + 1 + ranges.length) (rest.drop ranges.length)).map
          (Char.ofNat number :: ·)
termination_by bytes.length
decreasing_by simp only [List.length_drop, List.length_cons]; omega

/-- The characters of bytes. -/
def decode (bytes : List UInt8) : Except Utf8Error (List Char) := decodeFrom 0 bytes

/-- The mark in place of bytes that begin no character. -/
def replacement : Char := '\uFFFD'

/-- The characters of bytes. Each longest run of bytes that could begin a character, but does not
go on as one, is replaced by a mark, as is each byte that begins none. -/
def decodeLossy (bytes : List UInt8) : List Char :=
  match bytes with
  | [] => []
  | b :: rest =>
    match followers? b.toNat with
    | none => replacement :: decodeLossy rest
    | some ranges =>
      match readFollowers 0 1 (leading b.toNat) ranges rest with
      | .ok number => Char.ofNat number :: decodeLossy (rest.drop ranges.length)
      | .error (.incomplete _) => [replacement]
      | .error (.invalid _ length) => replacement :: decodeLossy (rest.drop (length - 1))
termination_by bytes.length
decreasing_by
  all_goals simp only [List.length_drop, List.length_cons]; omega

end Utf8

end TypedSql
