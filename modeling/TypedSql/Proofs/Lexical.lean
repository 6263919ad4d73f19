import TypedSql.Expr.Render
import Mathlib.Data.List.Basic
import Mathlib.Tactic.IntervalCases
/-!
# Lexical structure

What a lexer meets in a statement with its values written as literals: ordinary characters, quoted
regions, negative numbers, parentheses, and operands with an operator between them. A quoted region
and a negative number only ever follow an ordinary character, so that the region is not taken for
the continuation of another one, and the sign not for a part of something else. The exception is an
operator of subtraction in front of a negative number.

## Main definitions

- `Lexical`: the texts that are made in this way, with what stands before and after them and whether
  a subtraction of a negative number occurs in them.
- `beginsOperand`: whether a text begins as operands do that are no negative numbers.
- `Value.isNegative`: whether a value is a negative number.

## Main statements

- `Dialect.lexical_literal`, `Dialect.lexical_columnReference`: literals and columns are operands.
- `Dialect.beginsOperand_literal`, `Dialect.head?_literal`: the literals of negative numbers begin
  with a sign, and no others.
-/

namespace TypedSql

/-- The characters that delimit something or begin a comment. An asterisk is not one of them: what
precedes it is never a slash. -/
def delimiting : List Char := ['\'', '"', '[', ']', '(', ')', '-', '/']

/-- Whether a character delimits nothing and begins no comment. -/
def isOrdinary (c : Char) : Bool := !delimiting.contains c

/-- Whether a text is made of ordinary characters, of which there are some. -/
def isWord (s : String) : Bool := !s.toList.isEmpty && s.toList.all isOrdinary

/-- What a text may follow, and what may follow it: an ordinary character, or the end of anything
complete, such as a quoted region. -/
inductive Edge where
  | ordinary
  | complete
deriving DecidableEq

/-- The delimiters of quoted regions: of texts, and of names. -/
def Dialect.regions (d : Dialect) : List (Char × Char) := [('\'', '\''), d.quotes]

/-- The texts that statements are made of. The edges say what may stand before a text and what
stands at its end, the truth value whether a negative number is subtracted in it. -/
inductive Lexical (d : Dialect) : Edge → Edge → Bool → List Char → Prop where
  | empty (e : Edge) : Lexical d e e false []
  | ordinary {c : Char} {cs : List Char} (h : ∀ x ∈ c :: cs, isOrdinary x) :
      Lexical d .complete .ordinary false (c :: cs)
  | quoted {delimiters : Char × Char} (h : delimiters ∈ d.regions) (cs : List Char) :
      Lexical d .ordinary .complete false
        (delimiters.1 :: Delimited.doubled delimiters.2 cs ++ [delimiters.2])
  | negative {c : Char} {cs : List Char} (h : ∀ x ∈ c :: cs, isOrdinary x) :
      Lexical d .ordinary .ordinary false ('-' :: c :: cs)
  | parenthesised {b : Bool} {cs : List Char} (h : Lexical d .ordinary .complete b cs) :
      Lexical d .complete .ordinary b ('(' :: (cs ++ [')']))
  | arithmetic (op : ArithmeticOp) {b b' : Bool} {left right : List Char}
      (hleft : Lexical d .ordinary .complete b left)
      (hright : Lexical d .ordinary .complete b' right) (hstar : right.head? ≠ some '*') :
      Lexical d .complete .ordinary (b || b' || (op == .sub && right.head? == some '-'))
        ('(' :: (left ++ op.symbol.toList ++ right ++ [')']))
  | append {e₁ e₂ e₃ : Edge} {b b' : Bool} {cs cs' : List Char} (h : Lexical d e₁ e₂ b cs)
      (h' : Lexical d e₂ e₃ b' cs') : Lexical d e₁ e₃ (b || b') (cs ++ cs')
  | strengthenBefore {e : Edge} {b : Bool} {cs : List Char} (h : Lexical d .complete e b cs) :
      Lexical d .ordinary e b cs
  | weakenAfter {e : Edge} {b : Bool} {cs : List Char} (h : Lexical d e .ordinary b cs) :
      Lexical d e .complete b cs

section Characters

theorem exists_cons_of_isWord {s : String} (h : isWord s) :
    ∃ c cs, s.toList = c :: cs ∧ ∀ x ∈ c :: cs, isOrdinary x := by
  simp only [isWord, Bool.and_eq_true, Bool.not_eq_true', List.isEmpty_eq_false_iff,
    List.all_eq_true] at h
  obtain ⟨hne, hall⟩ := h
  obtain ⟨c, cs, hcs⟩ := List.exists_cons_of_ne_nil hne
  exact ⟨c, cs, hcs, hcs ▸ hall⟩

theorem isOrdinary_of_isAlphanum {c : Char} (h : c.isAlphanum || c == '_') : isOrdinary c := by
  have hdelimiting : delimiting.any (fun x => x.isAlphanum || x == '_') = false := by decide
  by_contra hc
  rw [isOrdinary, Bool.not_eq_true', Bool.not_eq_false, List.contains_iff_mem] at hc
  exact List.any_eq_false.1 hdelimiting c hc h

theorem isWord_of_isPlainIdentifier {name : String} (h : isPlainIdentifier name) : isWord name := by
  unfold isPlainIdentifier at h
  unfold isWord
  cases hname : name.toList with
  | nil => simp [hname] at h
  | cons first rest =>
    rw [hname] at h
    simp only [Bool.and_eq_true, List.all_eq_true] at h
    obtain ⟨hfirst, hrest⟩ := h
    have hfirst' : isOrdinary first := by
      refine isOrdinary_of_isAlphanum ?_
      simp only [Char.isAlphanum, Bool.or_eq_true] at hfirst ⊢
      exact hfirst.imp_left .inl
    simpa [hfirst'] using fun x hx => isOrdinary_of_isAlphanum (hrest x hx)

/-- The digits of a number in a base up to sixteen are alphanumeric. -/
theorem isAlphanum_of_mem_toDigits {b n : Nat} (hb : 1 < b) (hb' : b ≤ 16) {c : Char}
    (h : c ∈ Nat.toDigits b n) : c.isAlphanum := by
  have hdigit (m : Nat) (hm : m < 16) : m.digitChar.isAlphanum := by
    interval_cases m <;> rfl
  -- on the number, which loses its last digit in each step
  induction n using Nat.strongRecOn with
  | ind n ih =>
    rw [Nat.toDigits_eq_if hb] at h
    split at h
    · rename_i hn
      rw [List.mem_singleton.1 h]
      exact hdigit n (by omega)
    · rename_i hn
      rcases List.mem_append.1 h with h | h
      · exact ih (n / b) (Nat.div_lt_self (by omega) hb) h
      · rw [List.mem_singleton.1 h]
        exact hdigit (n % b) (lt_of_lt_of_le (Nat.mod_lt _ (by omega)) hb')

theorem isOrdinary_of_mem_toDigits {b n : Nat} (hb : 1 < b) (hb' : b ≤ 16) {c : Char}
    (h : c ∈ Nat.toDigits b n) : isOrdinary c := by
  refine isOrdinary_of_isAlphanum ?_
  rw [isAlphanum_of_mem_toDigits hb hb' h, Bool.true_or]

theorem isWord_toString (n : Nat) : isWord (toString n) := by
  simp only [isWord, Nat.toString_eq_repr, Nat.toList_repr, Bool.and_eq_true, Bool.not_eq_true',
    List.isEmpty_eq_false_iff, List.all_eq_true]
  exact ⟨Nat.toDigits_ne_nil, fun c hc => isOrdinary_of_mem_toDigits (by decide) (by decide) hc⟩

theorem isWord_append {s t : String} (hs : isWord s) (ht : isWord t) : isWord (s ++ t) := by
  simp_all [isWord]

end Characters

namespace Lexical

variable {d : Dialect} {e e' : Edge} {b b' : Bool} {cs cs' : List Char}

theorem of_eq (h : Lexical d e e' b cs) (hb : b = b') (hcs : cs = cs') : Lexical d e e' b' cs' :=
  hb ▸ hcs ▸ h

theorem word {s : String} (h : isWord s) : Lexical d .complete .ordinary false s.toList := by
  obtain ⟨c, cs, hcs, hordinary⟩ := exists_cons_of_isWord h
  rw [hcs]
  exact .ordinary hordinary

/-- A word where an operand is expected. -/
theorem wordOperand {s : String} (h : isWord s) : Lexical d .ordinary .complete false s.toList :=
  (word h).weakenAfter.strengthenBefore

/-- A minus sign and a word make an operand. -/
theorem minus {s : String} (h : isWord s) :
    Lexical d .ordinary .complete false ('-' :: s.toList) := by
  obtain ⟨c, cs, hcs, hordinary⟩ := exists_cons_of_isWord h
  rw [hcs]
  exact .weakenAfter (.negative hordinary)

theorem enclosed {opening closing : Char} (h : (opening, closing) ∈ d.regions) (s : String) :
    Lexical d .ordinary .complete false (Delimited.enclose opening closing s).toList := by
  simpa [Delimited.enclose] using quoted h s.toList

theorem apostrophes (s : String) :
    Lexical d .ordinary .complete false (Delimited.apostrophes s).toList :=
  enclosed List.mem_cons_self s

/-- A word and an operand make an operand. -/
theorem wordThen {s : String} (h : isWord s) (hoperand : Lexical d .ordinary e b cs) :
    Lexical d .complete e b (s.toList ++ cs) :=
  ((word h).append hoperand).of_eq (Bool.false_or b) rfl

/-- A word ends an operand. -/
theorem thenWord {s : String} (h : isWord s) (hoperand : Lexical d e .complete b cs) :
    Lexical d e .ordinary b (cs ++ s.toList) :=
  (hoperand.append (word h)).of_eq (Bool.or_false b) rfl

end Lexical

section Names

variable (d : Dialect) (qualified : Bool)

/-- Only plain identifiers are written without delimiters. -/
theorem Dialect.isPlainIdentifier_of_not_needsQuoting {name : String} {enclosed : Bool}
    (h : ¬(enclosed || d.needsQuoting name)) : isPlainIdentifier name := by
  simp only [needsQuoting, Bool.or_eq_true, not_or, Bool.not_eq_true, Bool.not_eq_false'] at h
  exact h.2.1.2

theorem Dialect.lexical_identifier (name : String) (enclosed : Bool) :
    Lexical d .ordinary .complete false (d.identifier name enclosed).toList := by
  by_cases hquoted : enclosed || d.needsQuoting name
  · rw [identifier, if_pos hquoted]
    exact .enclosed (List.mem_cons_of_mem _ List.mem_cons_self) name
  · rw [identifier, if_neg hquoted]
    have hplain := d.isPlainIdentifier_of_not_needsQuoting hquoted
    exact .wordOperand (isWord_of_isPlainIdentifier hplain)

theorem Table.isWord_aliasName (t : Table) : isWord t.aliasName := by
  have hdigits : ∀ c ∈ Nat.toDigits 16 t.id.number.toNat, isOrdinary c := fun c hc =>
    isOrdinary_of_mem_toDigits (by decide) (by decide) hc
  have hunderscore : isOrdinary '_' := rfl
  simpa [isWord, aliasName, AliasGenerator.aliasOf, Hex.ofNat, hunderscore] using hdigits

theorem Dialect.lexical_tableName (t : Table) :
    Lexical d .ordinary .complete false (d.tableName t).toList := by
  rw [tableName]
  cases t.schema? with
  | none => exact d.lexical_identifier t.name t.enclosed
  | some schema =>
    simp only [String.toList_append]
    exact ((d.lexical_identifier schema t.enclosed).thenWord (s := ".") (by decide)).append
      (d.lexical_identifier t.name t.enclosed)

theorem Dialect.lexical_tableReference (t : Table) :
    Lexical d .ordinary .complete false (d.tableReference qualified t).toList := by
  cases qualified with
  | false => exact d.lexical_tableName t
  | true =>
    have hdeclared := (d.lexical_tableName t).thenWord
      (isWord_append (s := " AS ") (by decide) t.isWord_aliasName)
    simpa [tableReference] using hdeclared.weakenAfter

theorem Dialect.lexical_columnReference (c : Column) :
    Lexical d .ordinary .complete false (d.columnReference qualified c).toList := by
  cases qualified with
  | false => exact d.lexical_identifier c.name c.enclosed
  | true =>
    have hqualifier := isWord_append c.table.isWord_aliasName (t := ".") (by decide)
    simpa [columnReference] using
      ((d.lexical_identifier c.name c.enclosed).wordThen hqualifier).strengthenBefore

end Names

section Literals

variable (d : Dialect)

theorem Dialect.lexical_castText (text typeName : String) (h : isWord typeName) :
    Lexical d .ordinary .complete false (castText text typeName).toList := by
  have hcast := (Lexical.apostrophes (d := d) text).thenWord
    (isWord_append (s := "::") (by decide) h)
  simpa [castText] using hcast.weakenAfter

theorem Dialect.lexical_quotedLiteral (text typeName : String) (h : isWord typeName) :
    Lexical d .ordinary .complete false (d.quotedLiteral text typeName).toList := by
  cases d with
  | sqlServer => exact .apostrophes text
  | postgres => exact lexical_castText _ text typeName h

theorem Decimal.isOrdinary_of_mem_fractionDigits {places fraction : Nat} {c : Char}
    (h : c ∈ fractionDigits places fraction) : isOrdinary c := by
  rw [fractionDigits, List.mem_reverse] at h
  have hpadded := List.mem_reverse.1 ((List.dropWhile_sublist _).subset h)
  rcases List.mem_append.1 hpadded with hzero | hdigit
  · rw [List.eq_of_mem_replicate hzero]
    rfl
  · exact isOrdinary_of_mem_toDigits (by decide) (by decide) hdigit

theorem Decimal.isWord_positional (x : Decimal) : isWord x.positional := by
  unfold positional
  by_cases hwhole : 0 ≤ x.exponent
  · rw [if_pos hwhole]
    exact isWord_toString _
  · rw [if_neg hwhole]
    dsimp only
    -- a point is written only where digits follow it
    generalize hfraction : fractionDigits _ _ = fraction
    have hwhole : isWord (toString (x.digits / Nat.pow 10 (-x.exponent).toNat)) :=
      isWord_toString _
    have hpoint : isWord "." := by decide
    have hdigits : ∀ c ∈ fraction, isOrdinary c := fun c hc =>
      isOrdinary_of_mem_fractionDigits (hfraction ▸ hc)
    cases fraction with
    | nil => exact hwhole
    | cons c rest =>
      have hrest : isWord (String.ofList (c :: rest)) := by simpa [isWord] using hdigits
      exact isWord_append (isWord_append hwhole hpoint) hrest

/-- The magnitude of a finite number is a word. -/
theorem BinaryFormat.lexical_finiteText (f : BinaryFormat) (negative : Bool) (significand : Nat)
    (exponent : Int) :
    Lexical d .ordinary .complete false (f.finiteText negative significand exponent).toList := by
  have hmagnitude : isWord (if significand = 0 then "0"
      else (RoundingInterval.ofFinite f significand exponent).shortest.positional) := by
    split
    · decide
    · exact Decimal.isWord_positional _
  unfold finiteText
  cases negative with
  | false => simpa using Lexical.wordOperand hmagnitude
  | true => simpa using Lexical.minus hmagnitude

theorem Dialect.lexical_floatLiteral (f : BinaryFormat) (typeName : String) (h : isWord typeName)
    (x : BinaryDatum) :
    Lexical d .ordinary .complete false (d.floatLiteral f typeName x).toList := by
  cases x with
  | finite negative significand exponent =>
    exact f.lexical_finiteText d negative significand exponent
  | nan =>
    cases d with
    | sqlServer => exact .wordOperand (s := "NULL") (by decide)
    | postgres => exact lexical_castText _ _ _ h
  | infinite negative =>
    cases d with
    | sqlServer => exact .wordOperand (s := "NULL") (by decide)
    | postgres => exact lexical_castText _ _ _ h

theorem Int.lexical_toString (n : Int) :
    Lexical d .ordinary .complete false (toString n).toList := by
  by_cases hn : 0 ≤ n
  · have htext : toString n = toString n.toNat := by simp [Int.repr_eq_if, hn]
    rw [htext]
    exact .wordOperand (isWord_toString _)
  · have htext : (toString n).toList = '-' :: (toString (-n).toNat).toList := by
      simp [Int.repr_eq_if, hn]
    rw [htext]
    exact .minus (isWord_toString _)

theorem Hex.isOrdinary_of_mem_ofBytes {letterCase : LetterCase} {bytes : List UInt8} {c : Char}
    (h : c ∈ ofBytes letterCase bytes) : isOrdinary c := by
  have hdigit (n : Nat) (hn : n < 16) : isOrdinary (digit letterCase n) := by
    interval_cases n <;> cases letterCase <;> rfl
  obtain ⟨b, -, hc⟩ := List.mem_flatMap.1 h
  have hb := b.toNat_lt
  rcases List.mem_pair.1 hc with rfl | rfl
  · exact hdigit _ (by omega)
  · exact hdigit _ (by omega)

/-- Every literal is an operand. -/
theorem Dialect.lexical_literal (v : Value) :
    Lexical d .ordinary .complete false (d.literal v).toList := by
  cases v with
  | null => exact .wordOperand (s := "NULL") (by decide)
  | bool b => cases d <;> cases b <;> exact .wordOperand (by decide)
  | tinyInt n => exact .wordOperand (isWord_toString _)
  | smallInt n => exact Int.lexical_toString d _
  | int n => exact Int.lexical_toString d _
  | bigInt n => exact Int.lexical_toString d _
  | real x => exact d.lexical_floatLiteral _ _ (by decide) _
  | double x => exact d.lexical_floatLiteral _ _ (by decide) _
  | text s =>
    cases d with
    | sqlServer =>
      have hprefixed := (Lexical.apostrophes (d := .sqlServer) s).wordThen (s := "N") (by decide)
      simpa [literal] using hprefixed.strengthenBefore
    | postgres => exact .apostrophes s
  | guid g => exact d.lexical_quotedLiteral _ _ (by decide)
  | blob bytes =>
    cases d with
    | sqlServer =>
      have hword : isWord ("0x" ++ String.ofList (Hex.ofBytes .upper bytes)) := by
        have hdigits : ∀ c ∈ Hex.ofBytes .upper bytes, isOrdinary c := fun c hc =>
          Hex.isOrdinary_of_mem_ofBytes hc
        have hprefix : isOrdinary '0' ∧ isOrdinary 'x' := ⟨rfl, rfl⟩
        simpa [isWord, hprefix] using hdigits
      exact .wordOperand hword
    | postgres => exact lexical_castText _ _ _ (by decide)
  | date day => exact d.lexical_quotedLiteral _ _ (by decide)
  | time t => exact d.lexical_quotedLiteral _ _ (by decide)
  | dateTime t => exact d.lexical_quotedLiteral _ _ (by decide)
  | dateTimeOffset t => exact d.lexical_quotedLiteral _ _ (by decide)

end Literals

/-- Whether a text begins as operands do that are no negative numbers. -/
def beginsOperand (s : String) : Bool :=
  s.toList.head?.any fun c => c.isAlphanum || ['_', '\'', '"', '[', '(', '?'].contains c

section Beginnings

theorem beginsOperand_append {s : String} (h : beginsOperand s) (t : String) :
    beginsOperand (s ++ t) := by
  unfold beginsOperand at h ⊢
  cases hs : s.toList with
  | nil => simp [hs] at h
  | cons c rest => simpa [hs] using h

theorem head?_ne_of_beginsOperand {s : String} (h : beginsOperand s) {c : Char}
    (hc : c = '-' ∨ c = '*') : s.toList.head? ≠ some c := by
  intro hhead
  rw [beginsOperand, hhead] at h
  rcases hc with rfl | rfl <;> revert h <;> decide

theorem beginsOperand_of_isPlainIdentifier {name : String} (h : isPlainIdentifier name) :
    beginsOperand name := by
  unfold isPlainIdentifier at h
  unfold beginsOperand
  cases hname : name.toList with
  | nil => simp [hname] at h
  | cons first rest =>
    rw [hname] at h
    simp only [Bool.and_eq_true, Bool.or_eq_true, beq_iff_eq] at h
    rcases h.1 with hfirst | rfl
    · simp [Char.isAlphanum, hfirst]
    · rfl

theorem beginsOperand_toString (n : Nat) : beginsOperand (toString n) := by
  obtain ⟨c, rest, hdigits⟩ := List.exists_cons_of_ne_nil (Nat.toDigits_ne_nil (n := n) (b := 10))
  have hc : c.isDigit :=
    Nat.isDigit_of_mem_toDigits (b := 10) (n := n) (by decide) (by decide) (by simp [hdigits])
  simp [beginsOperand, hdigits, Char.isAlphanum, hc]

theorem Delimited.beginsOperand_enclose {opening : Char}
    (h : opening = '\'' ∨ opening = '"' ∨ opening = '[') (closing : Char) (s : String) :
    beginsOperand (enclose opening closing s) := by
  rcases h with rfl | rfl | rfl <;> simp [enclose, beginsOperand]

variable (d : Dialect)

theorem Dialect.beginsOperand_identifier (name : String) (enclosed : Bool) :
    beginsOperand (d.identifier name enclosed) := by
  by_cases hquoted : enclosed || d.needsQuoting name
  · rw [identifier, if_pos hquoted]
    cases d with
    | sqlServer => exact Delimited.beginsOperand_enclose (.inr (.inr rfl)) _ _
    | postgres => exact Delimited.beginsOperand_enclose (.inr (.inl rfl)) _ _
  · rw [identifier, if_neg hquoted]
    exact beginsOperand_of_isPlainIdentifier (d.isPlainIdentifier_of_not_needsQuoting hquoted)

theorem Dialect.beginsOperand_columnReference (qualified : Bool) (c : Column) :
    beginsOperand (d.columnReference qualified c) := by
  cases qualified with
  | false => exact d.beginsOperand_identifier _ _
  | true => simp [columnReference, Table.aliasName, AliasGenerator.aliasOf, beginsOperand]

/-- Whether a number is finite and has a negative sign, which zero may have too. -/
def BinaryDatum.isNegative : BinaryDatum → Bool
  | finite negative _ _ => negative
  | _ => false

/-- Whether a value is a negative number. -/
def Value.isNegative : Value → Bool
  | smallInt n => n.toInt < 0
  | int n => n.toInt < 0
  | bigInt n => n.toInt < 0
  | real x => x.datum.isNegative
  | double x => x.datum.isNegative
  | _ => false

theorem Decimal.beginsOperand_positional (x : Decimal) : beginsOperand x.positional := by
  unfold positional
  by_cases hwhole : 0 ≤ x.exponent
  · rw [if_pos hwhole]
    exact beginsOperand_toString _
  · rw [if_neg hwhole]
    dsimp only
    generalize fractionDigits _ _ = fraction
    have hwhole : beginsOperand (toString (x.digits / Nat.pow 10 (-x.exponent).toNat)) :=
      beginsOperand_toString _
    cases fraction with
    | nil => exact hwhole
    | cons c rest => exact beginsOperand_append (beginsOperand_append hwhole _) _

theorem Int.beginsOperand_toString {n : Int} (h : ¬n < 0) : beginsOperand (toString n) := by
  have htext : toString n = toString n.toNat := by simp [Int.repr_eq_if, Int.not_lt.1 h]
  rw [htext]
  exact TypedSql.beginsOperand_toString _

theorem Int.head?_toString {n : Int} (h : n < 0) : (toString n).toList.head? = some '-' := by
  simp [Int.repr_eq_if, Int.not_le.2 h]

theorem beginsOperand_null : beginsOperand "NULL" := by decide

theorem Dialect.beginsOperand_castText (text typeName : String) :
    beginsOperand (castText text typeName) :=
  beginsOperand_append (beginsOperand_append (Delimited.beginsOperand_enclose (.inl rfl) _ _) _) _

theorem Dialect.beginsOperand_floatLiteral (f : BinaryFormat) (typeName : String) {x : BinaryDatum}
    (h : x.isNegative = false) : beginsOperand (d.floatLiteral f typeName x) := by
  cases x with
  | finite negative significand exponent =>
    cases h
    have hmagnitude : beginsOperand (if significand = 0 then "0"
        else (RoundingInterval.ofFinite f significand exponent).shortest.positional) := by
      split
      · decide
      · exact Decimal.beginsOperand_positional _
    simpa [floatLiteral, BinaryFormat.finiteText] using hmagnitude
  | nan =>
    cases d with
    | sqlServer => exact beginsOperand_null
    | postgres => exact beginsOperand_castText _ _
  | infinite negative =>
    cases d with
    | sqlServer => exact beginsOperand_null
    | postgres => exact beginsOperand_castText _ _

theorem Dialect.head?_floatLiteral (f : BinaryFormat) (typeName : String) {x : BinaryDatum}
    (h : x.isNegative) : (d.floatLiteral f typeName x).toList.head? = some '-' := by
  cases x with
  | finite negative significand exponent =>
    cases h
    simp [floatLiteral, BinaryFormat.finiteText]
  | nan => cases h
  | infinite negative => cases h

/-- The literal of a negative number begins with a minus sign. -/
theorem Dialect.head?_literal {v : Value} (h : v.isNegative) :
    (d.literal v).toList.head? = some '-' := by
  cases v with
  | smallInt n => exact Int.head?_toString (of_decide_eq_true h)
  | int n => exact Int.head?_toString (of_decide_eq_true h)
  | bigInt n => exact Int.head?_toString (of_decide_eq_true h)
  | real x => exact d.head?_floatLiteral _ _ h
  | double x => exact d.head?_floatLiteral _ _ h
  | _ => cases h

/-- The literal of any other value begins as operands do. -/
theorem Dialect.beginsOperand_literal {v : Value} (h : v.isNegative = false) :
    beginsOperand (d.literal v) := by
  have hquoted (text typeName : String) : beginsOperand (d.quotedLiteral text typeName) := by
    cases d with
    | sqlServer => exact Delimited.beginsOperand_enclose (.inl rfl) _ _
    | postgres => exact beginsOperand_castText _ _
  cases v with
  | null => exact beginsOperand_null
  | bool b => cases d <;> cases b <;> decide
  | tinyInt n => exact TypedSql.beginsOperand_toString _
  | smallInt n => exact Int.beginsOperand_toString (of_decide_eq_false h)
  | int n => exact Int.beginsOperand_toString (of_decide_eq_false h)
  | bigInt n => exact Int.beginsOperand_toString (of_decide_eq_false h)
  | real x => exact d.beginsOperand_floatLiteral _ _ h
  | double x => exact d.beginsOperand_floatLiteral _ _ h
  | text s =>
    cases d with
    | sqlServer => exact beginsOperand_append (by decide) _
    | postgres => exact Delimited.beginsOperand_enclose (.inl rfl) _ _
  | guid g => exact hquoted _ _
  | blob bytes =>
    cases d with
    | sqlServer => exact beginsOperand_append (by decide) _
    | postgres => exact hquoted _ _
  | date day => exact hquoted _ _
  | time t => exact hquoted _ _
  | dateTime t => exact hquoted _ _
  | dateTimeOffset t => exact hquoted _ _

end Beginnings

end TypedSql
