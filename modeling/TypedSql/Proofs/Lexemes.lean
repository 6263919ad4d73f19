import TypedSql.Proofs.Fragment
import TypedSql.Proofs.Lexical
import TypedSql.Proofs.LiteralReading
import TypedSql.Statement.Condition
/-!
# Lexemes

The pieces of a fragment run together in its text. They can be told apart again if each of them is
a word that no longer word could be taken for, a column behind its alias, or a placeholder.

## Main definitions

- `Dialect.readIdentifier?`, `Dialect.readReference?`: the name and the column in front of a text.
- `symbols`, `Dialect.words`: the words that conditions are written with.
- `Piece.StandsBefore`: what may follow a piece.
- `Fragment.IsLexed`: each piece of the fragment stands before something that may follow it.

## Main statements

- `Dialect.readIdentifier?_identifier`, `Dialect.readReference?_columnReference`: names and columns
  read back.
- `Fragment.IsLexed.eq_of_boundSqlFrom_eq`: text and bindings determine the pieces.

## Design notes

A placeholder needs no condition on what follows it, since the text before it says which one it is.
-/

namespace TypedSql

section Names

/-- Whether a character occurs in names that are not delimited. -/
def isNameChar (c : Char) : Bool := c.isAlphanum || c == '_'

/-- The name in front of a text, and what follows it. -/
def Dialect.readIdentifier? (d : Dialect) (cs : List Char) : Option (List Char × List Char) :=
  if cs.head? = some d.quotes.1 then Delimited.read? d.quotes.2 cs.tail
  else some (cs.takeWhile isNameChar, cs.dropWhile isNameChar)

/-- The alias and the name of the column in front of a text, and what follows them. -/
def Dialect.readReference? (d : Dialect) (cs : List Char) :
    Option (List Char × List Char × List Char) :=
  (d.readIdentifier? (cs.dropWhile (· ≠ '.')).tail).map fun (name, after) =>
    (cs.takeWhile (· ≠ '.'), name, after)

theorem isNameChar_of_isPlainIdentifier {name : String} (h : isPlainIdentifier name) :
    name.toList ≠ [] ∧ ∀ c ∈ name.toList, isNameChar c := by
  unfold isPlainIdentifier at h
  cases hname : name.toList with
  | nil => simp [hname] at h
  | cons first rest =>
    rw [hname] at h
    simp only [Bool.and_eq_true, List.all_eq_true] at h
    obtain ⟨hfirst, hrest⟩ := h
    refine ⟨List.cons_ne_nil first rest, ?_⟩
    intro c hc
    rcases List.mem_cons.1 hc with rfl | hc
    · simp only [isNameChar, Char.isAlphanum, Bool.or_eq_true] at hfirst ⊢
      exact hfirst.imp_left .inl
    · exact hrest c hc

variable (d : Dialect) {after : List Char} (h : FollowsLiteral after)

include h

/-- A name is read back, whether it is delimited or not. -/
theorem Dialect.readIdentifier?_identifier (name : String) (enclosed : Bool) :
    d.readIdentifier? ((d.identifier name enclosed).toList ++ after) =
      some (name.toList, after) := by
  by_cases hquoted : enclosed || d.needsQuoting name
  · have hclosing : after.head? ≠ some d.quotes.2 := by
      cases d <;> exact h.head?_ne (by decide)
    have hread := Delimited.read?_doubled name.toList hclosing
    rw [identifier, if_pos hquoted]
    simpa [Delimited.enclose, readIdentifier?] using hread
  · obtain ⟨hne, hchars⟩ :=
      isNameChar_of_isPlainIdentifier (d.isPlainIdentifier_of_not_needsQuoting hquoted)
    have hfollowers : literalFollowers.any isNameChar = false := by decide
    have hquote : isNameChar d.quotes.1 = false := by cases d <;> decide
    have hhead : (name.toList ++ after).head? ≠ some d.quotes.1 := by
      obtain ⟨first, rest, hname⟩ := List.exists_cons_of_ne_nil hne
      rw [hname, List.cons_append, List.head?_cons]
      intro hfirst
      have hchar := hchars first (by simp [hname])
      rw [Option.some.inj hfirst, hquote] at hchar
      cases hchar
    rw [identifier, if_neg hquoted, readIdentifier?, if_neg hhead,
      List.takeWhile_append_of_pos hchars, List.dropWhile_append_of_pos hchars,
      h.takeWhile_eq_nil hfollowers, h.dropWhile_eq_self hfollowers, List.append_nil]

theorem Dialect.readReference?_columnReference (c : Column) :
    d.readReference? ((d.columnReference true c).toList ++ after) =
      some (c.table.aliasName.toList, c.name.toList, after) := by
  have halias : ∀ x ∈ c.table.aliasName.toList, decide (x ≠ '.') := by
    intro x hx
    rw [Table.aliasName, AliasGenerator.aliasOf, String.toList_ofList, List.mem_cons] at hx
    rw [decide_eq_true_eq]
    rcases hx with rfl | hx
    · decide
    · rintro rfl
      exact absurd (isAlphanum_of_mem_toDigits (by decide) (by decide) hx) (by decide)
  have hread := d.readIdentifier?_identifier h c.name c.enclosed
  have htext : (d.columnReference true c).toList ++ after =
      c.table.aliasName.toList ++ '.' :: ((d.identifier c.name c.enclosed).toList ++ after) := by
    simp [columnReference]
  rw [htext, readReference?, List.takeWhile_append_of_pos halias,
    List.dropWhile_append_of_pos halias]
  simp [hread]

end Names

section Lexemes

/-- The brackets, operators and connectives of conditions. -/
def symbols : List String :=
  ["(", ")", ",", "+", "-", "*", "/", "=", "<>", "<", "<=", ">", ">=", " AND ", " OR ", "NOT ",
    " BETWEEN ", " NOT BETWEEN ", " IN", " NOT IN", " IS NULL", " IS NOT NULL", " LIKE ",
    " NOT LIKE ", " ILIKE ", " NOT ILIKE ", "DISTINCT "]

/-- The words of conditions: symbols and function names. -/
def Dialect.words (d : Dialect) : List String :=
  symbols ++ SqlFunction.known.map d.functionName

namespace Piece

/-- What is written for a piece behind a number of bindings. -/
def spelling (style : PlaceholderStyle) (position : Nat) : Piece → List Char
  | text s => s.toList
  | binding _ => (style.placeholder position).toList

/-- The piece is a lexeme, and what follows it is not taken for a part of it: no word goes on with
the character after a word, and no name with the character after a column. -/
inductive StandsBefore (d : Dialect) (after : List Char) : Piece → Prop where
  | word {s : String} (h : s ∈ d.words)
      (hlongest : ∀ c ∈ after.head?, ∀ s' ∈ d.words, ¬s.toList ++ [c] <+: s'.toList) :
      StandsBefore d after (.text s)
  | reference (c : Column) (h : FollowsLiteral after) :
      StandsBefore d after (.text (d.columnReference true c))
  | placeholder (b : Binding) : StandsBefore d after (.binding b)

end Piece

variable {d : Dialect}

/-- Words begin neither as columns nor as placeholders do. -/
theorem Dialect.exists_cons_of_mem_words {s : String} (h : s ∈ d.words) :
    ∃ c cs, s.toList = c :: cs ∧ c ∉ ['_', '@', '$'] := by
  have hwords : ∀ s ∈ d.words, s.toList.head?.any fun c => c ∉ ['_', '@', '$'] := by
    cases d <;> decide
  obtain ⟨c, hc, hmem⟩ := (Option.any_eq_true _ _).1 (hwords s h)
  obtain ⟨cs, hcs⟩ := List.head?_eq_some_iff.1 hc
  exact ⟨c, cs, hcs, of_decide_eq_true hmem⟩

theorem Dialect.exists_cons_columnReference (d : Dialect) (c : Column) :
    ∃ cs, (d.columnReference true c).toList = '_' :: cs := by
  simp [columnReference, Table.aliasName, AliasGenerator.aliasOf]

theorem PlaceholderStyle.exists_cons_placeholder (style : PlaceholderStyle) (position : Nat) :
    ∃ c cs, (style.placeholder position).toList = c :: cs ∧ c ∈ ['@', '$'] := by
  cases style <;> simp [placeholder]

/-- No word is the beginning of another one, but for two comparisons. -/
theorem Dialect.eq_of_prefix_word {s t : String} (hs : s ∈ d.words) (hs' : s ∉ ["<", ">"])
    (ht : t ∈ d.words) (h : s.toList <+: t.toList) : t = s := by
  have hwords : ∀ s ∈ d.words, s ∉ ["<", ">"] → ∀ t ∈ d.words, s.toList <+: t.toList → t = s := by
    cases d <;> decide +kernel
  exact hwords s hs hs' t ht h

/-- The two comparisons go on in two ways. -/
theorem Dialect.comparison_prefix_word {s t : String} (hs : s ∈ ["<", ">"]) (ht : t ∈ d.words)
    {c : Char} (h : s.toList ++ [c] <+: t.toList) : c ∈ ['=', '>'] := by
  have hwords : ∀ s ∈ ["<", ">"], ∀ t ∈ d.words, s.toList <+: t.toList →
      (t.toList.drop s.toList.length).head?.all ['=', '>'].contains := by
    cases d <;> decide +kernel
  obtain ⟨rest, hrest⟩ := h
  have hnext := hwords s hs t ht ⟨c :: rest, by rw [← hrest]; simp⟩
  rw [← hrest, List.append_assoc, List.drop_left] at hnext
  exact List.contains_iff_mem.1 hnext

namespace Piece.StandsBefore

variable {p q : Piece} {after after' : List Char}

theorem spelling_ne_nil (h : p.StandsBefore d after) (style : PlaceholderStyle) (position : Nat) :
    p.spelling style position ≠ [] := by
  cases h with
  | word h =>
    obtain ⟨c, cs, hcs, -⟩ := Dialect.exists_cons_of_mem_words h
    simp [spelling, hcs]
  | reference c =>
    obtain ⟨cs, hcs⟩ := d.exists_cons_columnReference c
    simp [spelling, hcs]
  | placeholder b =>
    obtain ⟨c, cs, hcs, -⟩ := style.exists_cons_placeholder position
    simp [spelling, hcs]

theorem eq_of_eq_append {s s' : String} {more : List Char} (hs' : s' ∈ d.words)
    (hlongest : ∀ c ∈ after.head?, ∀ t ∈ d.words, ¬s.toList ++ [c] <+: t.toList)
    (hmore : s'.toList = s.toList ++ more) (hafter : after = more ++ after') : s = s' := by
  cases more with
  | nil =>
    rw [List.append_nil] at hmore
    exact (String.toList_inj.1 hmore).symm
  | cons c more =>
    refine absurd ?_ (hlongest c (by simp [hafter]) s' hs')
    exact ⟨more, by simp [hmore]⟩

theorem word_eq {s s' : String} (hs : s ∈ d.words) (hs' : s' ∈ d.words)
    (hlongest : ∀ c ∈ after.head?, ∀ t ∈ d.words, ¬s.toList ++ [c] <+: t.toList)
    (hlongest' : ∀ c ∈ after'.head?, ∀ t ∈ d.words, ¬s'.toList ++ [c] <+: t.toList)
    (h : s.toList ++ after = s'.toList ++ after') : s = s' := by
  rcases List.append_eq_append_iff.1 h with ⟨more, hmore, hafter⟩ | ⟨more, hmore, hafter⟩
  · exact eq_of_eq_append hs' hlongest hmore hafter
  · exact (eq_of_eq_append hs hlongest' hmore hafter).symm

theorem reference_eq {c c' : Column} (hafter : FollowsLiteral after)
    (hafter' : FollowsLiteral after')
    (h : (d.columnReference true c).toList ++ after =
      (d.columnReference true c').toList ++ after') :
    c.table.aliasName = c'.table.aliasName ∧ c.name = c'.name ∧ after = after' := by
  have hread := d.readReference?_columnReference hafter c
  rw [h, d.readReference?_columnReference hafter' c'] at hread
  simpa [String.toList_inj, eq_comm] using hread

/-- Two pieces in front of one text are equal, or both of them are placeholders. -/
theorem eq_or_binding (hp : p.StandsBefore d after) (hq : q.StandsBefore d after')
    (position : Nat)
    (h : p.spelling d.placeholderStyle position ++ after =
      q.spelling d.placeholderStyle position ++ after') :
    p = q ∨ ∃ b b', p = .binding b ∧ q = .binding b' := by
  -- pieces of different kinds begin with different characters
  have hfirst {c c' : Char} {cs cs' : List Char}
      (hcs : p.spelling d.placeholderStyle position = c :: cs)
      (hcs' : q.spelling d.placeholderStyle position = c' :: cs') : c = c' := by
    rw [hcs, hcs'] at h
    exact (List.cons.inj h).1
  cases hp with
  | word hs hlongest =>
    obtain ⟨c, cs, hcs, hc⟩ := Dialect.exists_cons_of_mem_words hs
    cases hq with
    | word hs' hlongest' => exact .inl (congrArg Piece.text (word_eq hs hs' hlongest hlongest' h))
    | reference c' =>
      obtain ⟨cs', hcs'⟩ := d.exists_cons_columnReference c'
      rw [hfirst hcs hcs'] at hc
      exact absurd (by decide) hc
    | placeholder b =>
      obtain ⟨c', cs', hcs', hc'⟩ := d.placeholderStyle.exists_cons_placeholder position
      rw [hfirst hcs hcs'] at hc
      exact absurd (List.mem_cons_of_mem _ hc') hc
  | reference c hafter =>
    obtain ⟨cs, hcs⟩ := d.exists_cons_columnReference c
    cases hq with
    | word hs' =>
      obtain ⟨c', cs', hcs', hc'⟩ := Dialect.exists_cons_of_mem_words hs'
      rw [← hfirst hcs hcs'] at hc'
      exact absurd (by decide) hc'
    | reference c' hafter' =>
      obtain ⟨-, -, rfl⟩ := reference_eq hafter hafter' h
      exact .inl (congrArg Piece.text (String.toList_inj.1 (List.append_cancel_right h)))
    | placeholder b =>
      obtain ⟨c', cs', hcs', hc'⟩ := d.placeholderStyle.exists_cons_placeholder position
      rw [← hfirst hcs hcs'] at hc'
      exact absurd hc' (by decide)
  | placeholder b =>
    obtain ⟨c, cs, hcs, hc⟩ := d.placeholderStyle.exists_cons_placeholder position
    cases hq with
    | word hs' =>
      obtain ⟨c', cs', hcs', hc'⟩ := Dialect.exists_cons_of_mem_words hs'
      rw [← hfirst hcs hcs'] at hc'
      exact absurd (List.mem_cons_of_mem _ hc) hc'
    | reference c' =>
      obtain ⟨cs', hcs'⟩ := d.exists_cons_columnReference c'
      rw [hfirst hcs hcs'] at hc
      exact absurd hc (by decide)
    | placeholder b' => exact .inr ⟨b, b', rfl, rfl⟩

end Piece.StandsBefore

namespace Fragment

/-- Each piece is a lexeme and stands before something that may follow it, however many bindings
stand before the fragment. -/
inductive IsLexed (d : Dialect) : Fragment → Prop where
  | nil : IsLexed d []
  | cons {p : Piece} {f : Fragment}
      (hp : ∀ position, p.StandsBefore d (f.boundSqlFrom d.placeholderStyle position).toList)
      (hf : IsLexed d f) : IsLexed d (p :: f)

/-- The fragment begins with what ends a name. -/
def FollowsName (d : Dialect) (f : Fragment) : Prop :=
  ∀ position, FollowsLiteral (f.boundSqlFrom d.placeholderStyle position).toList

theorem followsName_nil : FollowsName d [] := by
  intro position c hc
  simp [boundSqlFrom] at hc

theorem followsName_text {s : String} (hs : s.toList.head?.any literalFollowers.contains)
    (f : Fragment) : FollowsName d (.text s :: f) := by
  obtain ⟨c, hc, hmem⟩ := (Option.any_eq_true _ _).1 hs
  obtain ⟨cs, hcs⟩ := List.head?_eq_some_iff.1 hc
  intro position c' hc'
  have heq : c = c' := by simpa [boundSqlFrom, hcs] using hc'
  rw [← heq]
  exact List.contains_iff_mem.1 hmem

namespace IsLexed

variable {f : Fragment}

theorem word {s : String} (hs : s ∈ d.words) (hs' : s ∉ ["<", ">"]) (hf : f.IsLexed d) :
    IsLexed d (.text s :: f) := by
  refine .cons (fun position => .word hs ?_) hf
  intro c _ t ht h
  -- a word that goes on with the next character begins with this one, so it is no longer
  obtain rfl := d.eq_of_prefix_word hs hs' ht ((List.prefix_append _ _).trans h)
  have hlength := h.length_le
  simp at hlength

theorem comparison (op : Comparison) (hf : f.IsLexed d)
    (hfirst : ∀ position, ∀ c ∈ (f.boundSqlFrom d.placeholderStyle position).toList.head?,
      c ∉ ['=', '>']) : IsLexed d (.text op.symbol :: f) := by
  have hop : op.symbol ∈ d.words := List.mem_append_left _ (by cases op <;> decide)
  by_cases hs : op.symbol ∈ ["<", ">"]
  · refine .cons (fun position => .word hop ?_) hf
    intro c hc t ht h
    exact hfirst position c hc (d.comparison_prefix_word hs ht h)
  · exact hf.word hop hs

end IsLexed

theorem toList_boundSqlFrom_cons (style : PlaceholderStyle) (position : Nat) (p : Piece)
    (f : Fragment) :
    (boundSqlFrom style position (p :: f)).toList =
      p.spelling style position
        ++ (f.boundSqlFrom style (position + (bindings [p]).length)).toList := by
  cases p <;> simp [boundSqlFrom, Piece.spelling]

/-- A lexeme does not vanish in the text. -/
theorem boundSqlFrom_cons_ne_nil {p : Piece} {after : List Char} (hp : p.StandsBefore d after)
    (position : Nat) (f : Fragment) :
    boundSqlFrom d.placeholderStyle position (p :: f) ≠
      boundSqlFrom d.placeholderStyle position [] := by
  intro h
  have hspelling := congrArg String.toList h
  rw [toList_boundSqlFrom_cons] at hspelling
  exact hp.spelling_ne_nil d.placeholderStyle position (List.append_eq_nil_iff.1 hspelling).1

/-- The pieces of a fragment are determined by its text and its bindings. -/
theorem IsLexed.eq_of_boundSqlFrom_eq {f g : Fragment} (hf : f.IsLexed d) (hg : g.IsLexed d)
    {position : Nat}
    (htext : f.boundSqlFrom d.placeholderStyle position =
      g.boundSqlFrom d.placeholderStyle position)
    (hbindings : f.bindings = g.bindings) : f = g := by
  -- the position of the first placeholder grows along the fragments
  induction hf generalizing g position with
  | nil =>
    cases hg with
    | nil => rfl
    | cons hq hg => exact absurd htext.symm (boundSqlFrom_cons_ne_nil (hq 0) position _)
  | @cons p f hp hf ih =>
    cases hg with
    | nil => exact absurd htext (boundSqlFrom_cons_ne_nil (hp 0) position f)
    | @cons q g hq hg =>
      have hspelling := congrArg String.toList htext
      rw [toList_boundSqlFrom_cons, toList_boundSqlFrom_cons] at hspelling
      -- placeholders are told apart by the bindings only
      obtain rfl : p = q := by
        rcases (hp _).eq_or_binding (hq _) position hspelling with heq | ⟨b, b', rfl, rfl⟩
        · exact heq
        · rw [bindings_binding_cons, bindings_binding_cons] at hbindings
          rw [(List.cons.inj hbindings).1]
      have hrest : f.bindings = g.bindings := by
        cases p with
        | text s => exact hbindings
        | binding b => exact (List.cons.inj hbindings).2
      have htext' := String.toList_inj.1 (List.append_cancel_left hspelling)
      rw [ih hg htext' hrest]

end Fragment

end Lexemes

end TypedSql
