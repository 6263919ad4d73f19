import TypedSql.Dialect.Literal
import Mathlib.Data.List.Basic
import Mathlib.Tactic.IntervalCases
/-!
# Reading literals

A reader of literals as the dialects define them, from left to right and without looking at the
value that was written. It reads the literal of a text, a blob or an integer back to the value and
stops where the literal ends, whatever the value is, so that no value can end its literal early.

## Main definitions

- `Delimited.read?`: the text between delimiters, from behind the opening one.
- `Dialect.readLiteral?`: the datum of a literal and what follows it.
- `Dialect.readValue?`: the value of a literal of a declared type.

## Main statements

- `Delimited.read?_doubled`: doubling is undone, and the closing delimiter is recognised.
- `Hex.bytes?_ofBytes`: bytes read back from their digits.
- `literals_read_back`: values read back from their literals, which therefore differ.
-/

namespace TypedSql

namespace Delimited

/-- The text up to the closing delimiter, of which a double one stands for itself, and what follows
the delimiter. -/
def read? (closing : Char) : List Char → Option (List Char × List Char)
  | [] => none
  | c :: rest =>
    if c = closing then
      match rest with
      | next :: rest' =>
        if next = closing then (read? closing rest').map fun (text, after) => (c :: text, after)
        else some ([], rest)
      | [] => some ([], [])
    else (read? closing rest).map fun (text, after) => (c :: text, after)

theorem read?_cons_of_ne {closing c : Char} (hc : c ≠ closing) (rest : List Char) :
    read? closing (c :: rest) =
      (read? closing rest).map fun (text, after) => (c :: text, after) := by
  cases rest <;> simp [read?, hc]

/-- A text is read back up to its closing delimiter, if that is not doubled by what follows. -/
theorem read?_doubled {closing : Char} (text : List Char) {after : List Char}
    (hafter : after.head? ≠ some closing) :
    read? closing (doubled closing text ++ closing :: after) = some (text, after) := by
  induction text with
  | nil =>
    cases after with
    | nil => simp [doubled, read?]
    | cons c rest =>
      have hc : c ≠ closing := by simpa using hafter
      simp [doubled, read?, hc]
  | cons c text ih =>
    have hcons : doubled closing (c :: text) =
        (if c = closing then [closing, c] else [c]) ++ doubled closing text := rfl
    by_cases hc : c = closing
    · subst hc
      simp [hcons, read?, ih]
    · simp [hcons, hc, read?_cons_of_ne, ih]

end Delimited

namespace Hex

theorem digitValue?_digit (letterCase : LetterCase) {n : Nat} (hn : n < 16) :
    digitValue? (digit letterCase n) = some n := by
  interval_cases n <;> cases letterCase <;> rfl

/-- Bytes are read back from their digits. -/
theorem bytes?_ofBytes (letterCase : LetterCase) (bytes : List UInt8) :
    bytes? (ofBytes letterCase bytes) = some bytes := by
  induction bytes with
  | nil => rfl
  | cons b rest ih =>
    have hhigh : b.toNat / 16 < 16 := by have := b.toNat_lt; omega
    have hlow : b.toNat % 16 < 16 := Nat.mod_lt _ (by decide)
    have hvalue : value? [digit letterCase (b.toNat / 16), digit letterCase (b.toNat % 16)] =
        some b.toNat := by
      simp [value?, digitValue?_digit letterCase hhigh, digitValue?_digit letterCase hlow,
        Nat.div_add_mod]
    have hcons : ofBytes letterCase (b :: rest) =
        digit letterCase (b.toNat / 16) :: digit letterCase (b.toNat % 16) ::
          ofBytes letterCase rest := rfl
    simp [hcons, bytes?, hvalue, ih]

/-- Every character among the digits of bytes is a digit. -/
theorem isSome_digitValue?_of_mem {letterCase : LetterCase} {bytes : List UInt8} {c : Char}
    (h : c ∈ ofBytes letterCase bytes) : (digitValue? c).isSome := by
  obtain ⟨b, -, hc⟩ := List.mem_flatMap.1 h
  have hhigh : b.toNat / 16 < 16 := by have := b.toNat_lt; omega
  have hlow : b.toNat % 16 < 16 := Nat.mod_lt _ (by decide)
  rcases List.mem_pair.1 hc with rfl | rfl
  · rw [digitValue?_digit letterCase hhigh]; rfl
  · rw [digitValue?_digit letterCase hlow]; rfl

end Hex

/-- What a literal spells: a text, bytes or an integer of no particular width. -/
inductive Datum where
  | text (s : String)
  | blob (bytes : List UInt8)
  | integer (n : Int)
deriving DecidableEq

/-- The value of a declared type that a datum is, if the datum is of the kind and in range. -/
def Datum.value? (type : SqlType) : Datum → Option Value
  | text s => if type = .text then some (.text s) else none
  | blob bytes => if type = .blob then some (.blob bytes) else none
  | integer n => do
    let width ← type.integerWidth?
    let m ← width.ofInt? n
    return width.toValue m

/-- The number that the digits in front spell, and what follows them. -/
def readNatural? (cs : List Char) : Option (Nat × List Char) :=
  let digits := cs.takeWhile Char.isDigit
  if digits.isEmpty then none
  else some (Nat.ofDigitChars 10 digits 0, cs.dropWhile Char.isDigit)

/-- The integer in front: digits, after a minus sign or not. -/
def readInteger? : List Char → Option (Datum × List Char)
  | '-' :: rest => (readNatural? rest).map fun (n, after) => (.integer (-n), after)
  | cs => (readNatural? cs).map fun (n, after) => (.integer n, after)

/-- The text of a quoted literal from behind its opening apostrophe. -/
def readText? (cs : List Char) : Option (Datum × List Char) :=
  (Delimited.read? '\'' cs).map fun (text, after) => (.text (String.ofList text), after)

/-- Whether a character is a hexadecimal digit. -/
def isHexDigit (c : Char) : Bool := (Hex.digitValue? c).isSome

/-- The bytes that the hexadecimal digits in front spell, and what follows them. -/
def readBytes? (cs : List Char) : Option (Datum × List Char) :=
  (Hex.bytes? (cs.takeWhile isHexDigit)).map fun bytes => (.blob bytes, cs.dropWhile isHexDigit)

/-- The cast that makes a quoted literal a blob. -/
def byteaCast : List Char := [':', ':', 'b', 'y', 't', 'e', 'a']

/-- A quoted literal is a blob where a cast says so, and a text otherwise. -/
def readCastText? (cs : List Char) : Option (Datum × List Char) := do
  let (text, after) ← Delimited.read? '\'' cs
  match byteaCast.isPrefixOf? after, text with
  | none, _ => return (.text (String.ofList text), after)
  | some after, '\\' :: 'x' :: digits => return (.blob (← Hex.bytes? digits), after)
  | some _, _ => none

/-- The literal in front of a text. -/
def Dialect.readLiteral? (d : Dialect) (cs : List Char) : Option (Datum × List Char) :=
  match d, cs with
  | sqlServer, 'N' :: '\'' :: rest => readText? rest
  | sqlServer, '\'' :: rest => readText? rest
  | sqlServer, '0' :: 'x' :: rest => readBytes? rest
  | postgres, '\'' :: rest => readCastText? rest
  | _, cs => readInteger? cs

/-- The literal of a value of a declared type in front of a text. -/
def Dialect.readValue? (d : Dialect) (type : SqlType) (cs : List Char) :
    Option (Value × List Char) := do
  let (datum, after) ← d.readLiteral? cs
  return (← datum.value? type, after)

/-- The characters that can follow a literal in a statement: a space, a comma, a closing
parenthesis, and the first characters of operators. -/
def literalFollowers : List Char := [' ', ',', ')', '+', '-', '*', '/', '%', '=', '<', '>', '!']

/-- What can follow a literal: nothing, or a text that begins with one of the characters. -/
def FollowsLiteral (after : List Char) : Prop := ∀ c ∈ after.head?, c ∈ literalFollowers

namespace FollowsLiteral

variable {after : List Char} (h : FollowsLiteral after)

include h

theorem head?_ne {c : Char} (hc : literalFollowers.contains c = false) :
    after.head? ≠ some c := by
  intro hhead
  have hmem : literalFollowers.contains c := List.contains_iff_mem.2 (h c hhead)
  rw [hc] at hmem
  cases hmem

theorem head?_ne_apostrophe : after.head? ≠ some '\'' := h.head?_ne (by decide)

theorem takeWhile_eq_nil {p : Char → Bool} (hp : literalFollowers.any p = false) :
    after.takeWhile p = [] := by
  cases after with
  | nil => rfl
  | cons c rest =>
    rw [List.any_eq_false] at hp
    simp [hp c (h c rfl)]

theorem dropWhile_eq_self {p : Char → Bool} (hp : literalFollowers.any p = false) :
    after.dropWhile p = after := by
  cases after with
  | nil => rfl
  | cons c rest =>
    rw [List.any_eq_false] at hp
    simp [hp c (h c rfl)]

theorem not_cast : byteaCast.isPrefixOf? after = none := by
  have hcolon : after.head? ≠ some ':' := h.head?_ne (by decide)
  cases after with
  | nil => rfl
  | cons c rest =>
    have hc : ':' ≠ c := by
      rintro rfl
      exact hcolon rfl
    simp [byteaCast, List.isPrefixOf?, hc]

end FollowsLiteral

section Reading

variable {after : List Char} (h : FollowsLiteral after)

include h

/-- A quoted text is read back. -/
theorem readText?_doubled (s : String) :
    readText? (Delimited.doubled '\'' s.toList ++ '\'' :: after) = some (.text s, after) := by
  simp [readText?, Delimited.read?_doubled s.toList h.head?_ne_apostrophe]

theorem readCastText?_doubled (s : String) :
    readCastText? (Delimited.doubled '\'' s.toList ++ '\'' :: after) = some (.text s, after) := by
  simp [readCastText?, Delimited.read?_doubled s.toList h.head?_ne_apostrophe, h.not_cast]

theorem readBytes?_ofBytes (letterCase : Hex.LetterCase) (bytes : List UInt8) :
    readBytes? (Hex.ofBytes letterCase bytes ++ after) = some (.blob bytes, after) := by
  have hdigits : ∀ c ∈ Hex.ofBytes letterCase bytes, isHexDigit c := fun c hc =>
    Hex.isSome_digitValue?_of_mem hc
  have hfollowers : literalFollowers.any isHexDigit = false := by decide
  rw [readBytes?, List.takeWhile_append_of_pos hdigits, List.dropWhile_append_of_pos hdigits,
    h.takeWhile_eq_nil hfollowers, h.dropWhile_eq_self hfollowers, List.append_nil,
    Hex.bytes?_ofBytes]
  rfl

theorem readNatural?_toDigits (n : Nat) :
    readNatural? (Nat.toDigits 10 n ++ after) = some (n, after) := by
  have hdigits : ∀ c ∈ Nat.toDigits 10 n, c.isDigit := fun c hc =>
    Nat.isDigit_of_mem_toDigits (by decide) (by decide) hc
  have hfollowers : literalFollowers.any Char.isDigit = false := by decide
  rw [readNatural?, List.takeWhile_append_of_pos hdigits, List.dropWhile_append_of_pos hdigits,
    h.takeWhile_eq_nil hfollowers, h.dropWhile_eq_self hfollowers, List.append_nil]
  simp [Nat.toDigits_ne_nil, Nat.ofDigitChars_ten_toDigits]

theorem readInteger?_toDigits (n : Nat) :
    readInteger? (Nat.toDigits 10 n ++ after) = some (.integer n, after) := by
  have hread := readNatural?_toDigits h n
  obtain ⟨first, rest, hcons⟩ := List.exists_cons_of_ne_nil (Nat.toDigits_ne_nil (n := n) (b := 10))
  have hfirst : first.isDigit :=
    Nat.isDigit_of_mem_toDigits (b := 10) (n := n) (by decide) (by decide) (by simp [hcons])
  rw [hcons, List.cons_append] at hread ⊢
  rw [readInteger?]
  · simp [hread]
  · intro tail htail
    rw [(List.cons.inj htail).1] at hfirst
    revert hfirst
    decide

/-- Digits begin neither a quoted literal nor a blob. -/
theorem readLiteral?_toDigits (d : Dialect) (n : Nat) :
    d.readLiteral? (Nat.toDigits 10 n ++ after) = readInteger? (Nat.toDigits 10 n ++ after) := by
  have hdigits : ∀ c ∈ Nat.toDigits 10 n, c.isDigit := fun c hc =>
    Nat.isDigit_of_mem_toDigits (by decide) (by decide) hc
  obtain ⟨first, rest, hcons⟩ := List.exists_cons_of_ne_nil (Nat.toDigits_ne_nil (n := n) (b := 10))
  rw [hcons] at hdigits ⊢
  have hfirst : ∀ c, c.isDigit = false → first ≠ c := by
    rintro c hc rfl
    simp [hdigits first List.mem_cons_self] at hc
  -- the second character is another digit or follows the literal
  have hsecond : (rest ++ after).head? ≠ some 'x' := by
    cases rest with
    | nil => exact h.head?_ne (by decide)
    | cons second rest =>
      have hdigit : second.isDigit := hdigits second (by simp)
      rintro ⟨⟩
      exact absurd hdigit (by decide)
  rw [List.cons_append, Dialect.readLiteral?]
  · intro tail _ htail
    exact hfirst 'N' (by decide) (List.cons.inj htail).1
  · intro tail _ htail
    exact hfirst '\'' (by decide) (List.cons.inj htail).1
  · intro tail _ htail
    simp [(List.cons.inj htail).2] at hsecond
  · intro tail _ htail
    exact hfirst '\'' (by decide) (List.cons.inj htail).1

/-- Behind a minus sign or digits there is an integer in both dialects. -/
theorem readLiteral?_toString (d : Dialect) (n : Int) :
    d.readLiteral? ((toString n).toList ++ after) = some (.integer n, after) := by
  by_cases hn : 0 ≤ n
  · have htext : (toString n).toList = Nat.toDigits 10 n.toNat := by
      simp [Int.repr_eq_if, hn]
    rw [htext, readLiteral?_toDigits h, readInteger?_toDigits h, Int.toNat_of_nonneg hn]
  · -- no other literal begins with a minus sign
    have htext : (toString n).toList = '-' :: Nat.toDigits 10 (-n).toNat := by
      simp [Int.repr_eq_if, hn]
    have hread := readNatural?_toDigits h (-n).toNat
    rw [htext, List.cons_append]
    cases d <;> simp [Dialect.readLiteral?, readInteger?, hread] <;> omega

theorem readLiteral?_text (d : Dialect) (s : String) :
    d.readLiteral? ((d.literal (.text s)).toList ++ after) = some (.text s, after) := by
  cases d with
  | sqlServer =>
    simpa [Dialect.literal, Delimited.apostrophes, Delimited.enclose, Dialect.readLiteral?] using
      readText?_doubled h s
  | postgres =>
    simpa [Dialect.literal, Delimited.apostrophes, Delimited.enclose, Dialect.readLiteral?] using
      readCastText?_doubled h s

theorem readLiteral?_blob (d : Dialect) (bytes : List UInt8) :
    d.readLiteral? ((d.literal (.blob bytes)).toList ++ after) = some (.blob bytes, after) := by
  cases d with
  | sqlServer =>
    simpa [Dialect.literal, Dialect.readLiteral?] using readBytes?_ofBytes h .upper bytes
  | postgres =>
    -- the cast stands between the quoted text and what follows
    have hcast : byteaCast.isPrefixOf? (byteaCast ++ after) = some after := rfl
    have hread : Delimited.read? '\'' (Delimited.doubled '\''
        ('\\' :: 'x' :: Hex.ofBytes .lower bytes) ++ '\'' :: (byteaCast ++ after)) =
          some ('\\' :: 'x' :: Hex.ofBytes .lower bytes, byteaCast ++ after) :=
      Delimited.read?_doubled _ (by simp [byteaCast])
    have hblob : readCastText? (Delimited.doubled '\''
        ('\\' :: 'x' :: Hex.ofBytes .lower bytes) ++ '\'' :: (byteaCast ++ after)) =
          some (.blob bytes, after) := by
      simp [readCastText?, hread, hcast, Hex.bytes?_ofBytes]
    simpa [Dialect.literal, Dialect.castText, Delimited.apostrophes, Delimited.enclose,
      Dialect.readLiteral?, byteaCast] using hblob

end Reading

namespace IntegerWidth

theorem literal_toValue (d : Dialect) (w : IntegerWidth) (n : w.Carrier) :
    d.literal (w.toValue n) = toString (w.toInt n) := by
  cases w <;> rfl

theorem ofInt?_toInt (w : IntegerWidth) (n : w.Carrier) : w.ofInt? (w.toInt n) = some n := by
  have hrange : w.lowest ≤ w.toInt n ∧ w.toInt n ≤ w.highest := by
    cases w with
    | tiny =>
      have := UInt8.toNat_lt n
      simp only [lowest, highest, toInt]
      omega
    | small => exact ⟨Int16.le_toInt n, Int.le_of_lt_add_one (Int16.toInt_lt n)⟩
    | regular => exact ⟨Int32.le_toInt n, Int.le_of_lt_add_one (Int32.toInt_lt n)⟩
    | big => exact ⟨Int64.le_toInt n, Int.le_of_lt_add_one (Int64.toInt_lt n)⟩
  unfold ofInt?
  rw [if_pos hrange]
  cases w with
  | tiny => exact congrArg some UInt8.ofNat_toNat
  | small => exact congrArg some (Int16.ofInt_toInt n)
  | regular => exact congrArg some (Int32.ofInt_toInt n)
  | big => exact congrArg some (Int64.ofInt_toInt n)

/-- The values of an integer type are the integers of its width. -/
theorem exists_eq_toValue {type : SqlType} {v : Value} (htype : type.isInteger)
    (hv : v.sqlType? = some type) :
    ∃ (w : IntegerWidth) (n : w.Carrier), type.integerWidth? = some w ∧ v = w.toValue n := by
  cases v with
  | tinyInt n => cases hv; exact ⟨.tiny, n, rfl, rfl⟩
  | smallInt n => cases hv; exact ⟨.small, n, rfl, rfl⟩
  | int n => cases hv; exact ⟨.regular, n, rfl, rfl⟩
  | bigInt n => cases hv; exact ⟨.big, n, rfl, rfl⟩
  | _ => cases hv <;> exact absurd htype (by decide)

end IntegerWidth

/-- The literal of a value of one of the types is read back, whatever follows. -/
theorem Dialect.readValue?_literal (d : Dialect) {type : SqlType} {v : Value} {after : List Char}
    (htype : type = .text ∨ type = .blob ∨ type.isInteger) (hv : v.sqlType? = some type)
    (h : FollowsLiteral after) :
    d.readValue? type ((d.literal v).toList ++ after) = some (v, after) := by
  rcases htype with rfl | rfl | hinteger
  · cases v with
    | text s => simp [readValue?, readLiteral?_text h, Datum.value?]
    | _ => cases hv
  · cases v with
    | blob bytes => simp [readValue?, readLiteral?_blob h, Datum.value?]
    | _ => cases hv
  · obtain ⟨w, n, hwidth, rfl⟩ := IntegerWidth.exists_eq_toValue hinteger hv
    rw [readValue?, IntegerWidth.literal_toValue, readLiteral?_toString h]
    simp [Datum.value?, hwidth, IntegerWidth.ofInt?_toInt]

/-- The literal of a text, a blob or an integer is read back, and reading stops where it ends,
whatever follows. So different values of one type have different literals. -/
theorem literals_read_back (d : Dialect) {type : SqlType}
    (htype : type = .text ∨ type = .blob ∨ type.isInteger) :
    (∀ v : Value, v.sqlType? = some type → ∀ after, FollowsLiteral after →
      d.readValue? type ((d.literal v).toList ++ after) = some (v, after)) ∧
    ∀ v w : Value, v.sqlType? = some type → w.sqlType? = some type →
      d.literal v = d.literal w → v = w := by
  refine ⟨fun v hv after h => d.readValue?_literal htype hv h, fun v w hv hw hliteral => ?_⟩
  have hnothing : FollowsLiteral [] := by rintro c ⟨⟩
  have hreadv := d.readValue?_literal htype hv hnothing
  have hreadw := d.readValue?_literal htype hw hnothing
  rw [hliteral, hreadw] at hreadv
  exact (Prod.mk.inj (Option.some.inj hreadv)).1.symm

/-- A text of quotes is read back in front of a parenthesis. -/
theorem literal_of_quotes_reads_back :
    Dialect.sqlServer.readValue? .text
        ((Dialect.sqlServer.literal (.text "''; --'")).toList ++ [')']) =
      some (.text "''; --'", [')']) :=
  (literals_read_back .sqlServer (.inl rfl)).1 _ rfl _ (by rintro c ⟨⟩; decide)

end TypedSql
