import TypedSql.Proofs.InlineText
import TypedSql.Proofs.Skeleton
/-!
# Comments in statements with literals

A reader that knows quoted regions and the openings of comments goes over a statement with its
values written as literals. It meets the opening of a comment if and only if a negative number is
subtracted somewhere in the template: the operator and the sign of the literal are two dashes then.

## Main definitions

- `Scan`: where the reader stands; `Scan.step` reads a character.
- `opensComment`: whether the reader meets the opening of a comment.

## Main statements

- `Lexical.scan`: what the reader makes of a text with lexical structure.
- `inline_opensComment_iff`: exactly the statements that subtract a negative number open a comment.
-/

namespace TypedSql

/-- Where the reader stands: in code, where it remembers the first half of an opening, in a quoted
region, behind the end of one, which the same delimiter once more would undo, or in a comment. -/
inductive Scan where
  | code
  | dash
  | slash
  | quoted (closing : Char)
  | closed (closing : Char)
  | comment
deriving DecidableEq

namespace Scan

/-- What a character of code leads to. -/
def inCode (d : Dialect) (c : Char) : Scan :=
  match d.regions.lookup c with
  | some closing => quoted closing
  | none => if c = '-' then dash else if c = '/' then slash else code

/-- Reads a character. Within a quoted region only its closing delimiter counts. -/
def step (d : Dialect) : Scan → Char → Scan
  | code, c => inCode d c
  | dash, c => if c = '-' then comment else inCode d c
  | slash, c => if c = '*' then comment else inCode d c
  | quoted closing, c => if c = closing then closed closing else quoted closing
  | closed closing, c => if c = closing then quoted closing else inCode d c
  | comment, _ => comment

end Scan

/-- Whether a comment is opened outside quoted regions. -/
def opensComment (d : Dialect) (sql : String) : Bool :=
  sql.toList.foldl (Scan.step d) .code == .comment

/-- Where the reader can stand at an edge. -/
def Edge.Admits (d : Dialect) : Edge → Scan → Prop
  | ordinary, s => s = .code
  | complete, s => s = .code ∨ ∃ region ∈ d.regions, s = .closed region.2

/-- Where the reader can stand at an edge behind a text that may open a comment. -/
def Edge.Reached (d : Dialect) (e : Edge) (commented : Bool) (s : Scan) : Prop :=
  if commented then s = .comment else e.Admits d s

section Reading

variable {d : Dialect}

/-- A comment goes on to the end. -/
theorem Scan.foldl_comment (cs : List Char) : cs.foldl (step d) comment = comment := by
  induction cs with
  | nil => rfl
  | cons c cs ih => exact ih

theorem Dialect.not_isOrdinary_delimiters {region : Char × Char} (h : region ∈ d.regions) :
    isOrdinary region.1 = false ∧ isOrdinary region.2 = false := by
  have hregions : d.regions.all fun r => !isOrdinary r.1 && !isOrdinary r.2 := by
    cases d <;> decide
  simpa using List.all_eq_true.1 hregions region h

theorem Scan.inCode_ordinary {c : Char} (h : isOrdinary c) : inCode d c = code := by
  have hother {x : Char} (hx : isOrdinary x = false) : c ≠ x := by
    rintro rfl
    simp [h] at hx
  have hregion : d.regions.lookup c = none := by
    refine List.lookup_eq_none_iff.2 fun region hregion => ?_
    simpa using hother (Dialect.not_isOrdinary_delimiters hregion).1
  rw [inCode, hregion]
  simp [hother (x := '-') rfl, hother (x := '/') rfl]

theorem Scan.inCode_opening {region : Char × Char} (h : region ∈ d.regions) :
    inCode d region.1 = quoted region.2 := by
  have hregions : d.regions.all fun r => inCode d r.1 == quoted r.2 := by cases d <;> decide
  simpa using List.all_eq_true.1 hregions region h

/-- Behind anything complete, what closes no region is read as code. -/
theorem Scan.step_complete {s : Scan} (hs : Edge.complete.Admits d s) {c : Char}
    (hc : d.regions.all fun r => c != r.2) : step d s c = inCode d c := by
  rcases hs with rfl | ⟨region, hregion, rfl⟩
  · rfl
  · have hne : c ≠ region.2 := by simpa using List.all_eq_true.1 hc region hregion
    rw [step, if_neg hne]

theorem Scan.foldl_ordinary {cs : List Char} (h : ∀ c ∈ cs, isOrdinary c) :
    cs.foldl (step d) code = code := by
  induction cs with
  | nil => rfl
  | cons c cs ih =>
    rw [List.forall_mem_cons] at h
    rw [List.foldl_cons, step, inCode_ordinary h.1]
    exact ih h.2

/-- Within a quoted region doubled delimiters are passed over. -/
theorem Scan.foldl_doubled (closing : Char) (cs : List Char) :
    (Delimited.doubled closing cs).foldl (step d) (quoted closing) = quoted closing := by
  induction cs with
  | nil => rfl
  | cons c cs ih =>
    -- the closing delimiter comes as a pair, of which the second half undoes the first
    have hcons : Delimited.doubled closing (c :: cs) =
        (if c = closing then [closing, c] else [c]) ++ Delimited.doubled closing cs := rfl
    rw [hcons, List.foldl_append]
    by_cases hc : c = closing
    · subst hc
      simpa [step] using ih
    · simpa [hc, step] using ih

theorem Scan.step_ordinary {s : Scan} (hs : Edge.complete.Admits d s) {c : Char}
    (hc : isOrdinary c) : step d s c = code := by
  have hclosing : d.regions.all fun r => c != r.2 := by
    rw [List.all_eq_true]
    intro region hregion
    rw [bne_iff_ne]
    rintro rfl
    simp [(Dialect.not_isOrdinary_delimiters hregion).2] at hc
  rw [step_complete hs hclosing, inCode_ordinary hc]

theorem Scan.step_parenthesis {s : Scan} (hs : Edge.complete.Admits d s) {c : Char}
    (hc : c = '(' ∨ c = ')') : step d s c = code := by
  have hclosing : d.regions.all fun r => c != r.2 := by
    rcases hc with rfl | rfl <;> cases d <;> decide
  rw [step_complete hs hclosing]
  rcases hc with rfl | rfl <;> cases d <;> rfl

theorem Scan.step_dash {c : Char} (hc : c ≠ '-') : step d dash c = step d code c := if_neg hc

theorem Scan.step_slash {c : Char} (hc : c ≠ '*') : step d slash c = step d code c := if_neg hc

/-- An operator leads into code behind it, or with a minus sign behind a subtraction into a comment.
A slash is not followed by an asterisk. -/
theorem Scan.foldl_operator (op : ArithmeticOp) {s : Scan} (hs : Edge.complete.Admits d s)
    {right : List Char} (hstar : right.head? ≠ some '*') :
    (op.symbol.toList ++ (right ++ [')'])).foldl (step d) s =
      if op == .sub && right.head? == some '-' then comment
      else (right ++ [')']).foldl (step d) code := by
  have hminus : step d s '-' = dash := by
    have hclosing : d.regions.all fun r => '-' != r.2 := by cases d <;> decide
    rw [step_complete hs hclosing]
    cases d <;> rfl
  have hslash : step d s '/' = slash := by
    have hclosing : d.regions.all fun r => '/' != r.2 := by cases d <;> decide
    rw [step_complete hs hclosing]
    cases d <;> rfl
  cases op with
  | add => simp [ArithmeticOp.symbol, step_ordinary (d := d) hs (c := '+') rfl]
  | mul => simp [ArithmeticOp.symbol, step_ordinary (d := d) hs (c := '*') rfl]
  | sub =>
    cases right with
    | nil => simp [ArithmeticOp.symbol, hminus, step_dash]
    | cons c rest =>
      by_cases hc : c = '-'
      · -- the operator and the sign are the opening, and nothing ends the comment
        have hcomment : step d dash '-' = comment := rfl
        have hgoes : step d comment ')' = comment := rfl
        simp [ArithmeticOp.symbol, hminus, hc, hcomment, hgoes, foldl_comment]
      · simp [ArithmeticOp.symbol, hminus, hc, step_dash]
  | div =>
    cases right with
    | nil => simp [ArithmeticOp.symbol, hslash, step_slash]
    | cons c rest =>
      -- a slash opens a comment only in front of an asterisk
      have hc : c ≠ '*' := by simpa using hstar
      simp [ArithmeticOp.symbol, hslash, hc, step_slash]

namespace Edge.Reached

variable {e e₁ e₂ : Edge} {b b' : Bool} {s : Scan}

/-- Once a comment is open, what is read next does not matter. -/
theorem append {cs : List Char} (h : e₁.Reached d b s)
    (hnext : e₁.Admits d s → e₂.Reached d b' (cs.foldl (Scan.step d) s)) :
    e₂.Reached d (b || b') (cs.foldl (Scan.step d) s) := by
  cases b with
  | false => exact hnext h
  | true =>
    rw [Reached, if_pos rfl] at h
    rw [h, Scan.foldl_comment]
    exact rfl

theorem of_eq (h : e.Reached d b s) (hb : b = b') : e.Reached d b' s := hb ▸ h

theorem closeParenthesis (h : Edge.complete.Reached d b s) :
    Edge.ordinary.Reached d b ([')'].foldl (Scan.step d) s) := by
  have hclosed : Edge.ordinary.Reached d (b || false) ([')'].foldl (Scan.step d) s) :=
    h.append fun hs => Scan.step_parenthesis hs (.inr rfl)
  exact hclosed.of_eq (Bool.or_false b)

theorem weaken (h : Edge.ordinary.Reached d b s) : Edge.complete.Reached d b s := by
  cases b with
  | false => exact .inl h
  | true => exact h

end Edge.Reached

/-- What the reader makes of a text: a comment if a negative number is subtracted in it, and
otherwise it stands at the edge behind the text. -/
theorem Lexical.scan {e e' : Edge} {b : Bool} {cs : List Char} (h : Lexical d e e' b cs) :
    ∀ s, e.Admits d s → e'.Reached d b (cs.foldl (Scan.step d) s) := by
  -- on how the text is made; where the reader starts is left open, as texts stand behind others
  induction h with
  | empty e => exact fun s hs => hs
  | @ordinary c cs h =>
    intro s hs
    rw [List.forall_mem_cons] at h
    rw [List.foldl_cons, Scan.step_ordinary hs h.1]
    exact Scan.foldl_ordinary h.2
  | @quoted delimiters h cs =>
    rintro s rfl
    have hopening : Scan.step d .code delimiters.1 = .quoted delimiters.2 := Scan.inCode_opening h
    have hregion : (delimiters.1 :: Delimited.doubled delimiters.2 cs).foldl (Scan.step d) .code =
        .quoted delimiters.2 := by
      rw [List.foldl_cons, hopening, Scan.foldl_doubled]
    rw [List.foldl_append, hregion]
    exact .inr ⟨delimiters, h, by simp [Scan.step]⟩
  | @negative c cs h =>
    rintro s rfl
    rw [List.forall_mem_cons] at h
    have hminus : Scan.step d .code '-' = .dash := by cases d <;> rfl
    have hne : c ≠ '-' := by
      rintro rfl
      exact absurd h.1 (by decide)
    rw [List.foldl_cons, hminus, List.foldl_cons, Scan.step, if_neg hne, Scan.inCode_ordinary h.1]
    exact Scan.foldl_ordinary h.2
  | @parenthesised b cs h ih =>
    intro s hs
    rw [List.foldl_cons, Scan.step_parenthesis hs (.inl rfl), List.foldl_append]
    exact (ih _ rfl).closeParenthesis
  | @arithmetic op b b' left right hleft hright hstar ihleft ihright =>
    intro s hs
    rw [List.foldl_cons, Scan.step_parenthesis hs (.inl rfl), List.append_assoc, List.append_assoc,
      List.foldl_append, Bool.or_assoc]
    refine (ihleft _ rfl).append fun hs => ?_
    rw [Scan.foldl_operator op hs hstar]
    cases op == .sub && right.head? == some '-' with
    | true => exact (Bool.or_true b').symm ▸ rfl
    | false =>
      rw [if_neg Bool.false_ne_true, List.foldl_append]
      exact (ihright _ rfl).closeParenthesis.of_eq (Bool.or_false b').symm
  | append h h' ih ih' =>
    intro s hs
    rw [List.foldl_append]
    exact (ih s hs).append (ih' _)
  | strengthenBefore h ih =>
    rintro s rfl
    exact ih _ (.inl rfl)
  | weakenAfter h ih => exact fun s hs => (ih s hs).weaken

end Reading

/-- A statement without text taken over as it is opens a comment, when its values are written as
literals, if and only if one of its expressions subtracts a negative number. -/
theorem inline_opensComment_iff (d : Dialect) (s : Statement) (h : ∀ e ∈ s.allExprs, e.isPlain) :
    opensComment d (s.compile d .inline).sql ↔ ∃ e ∈ s.allExprs, e.subtractsNegative := by
  have hscan := (StatementOf.reads d s h).scan .code (.inl rfl)
  rw [← List.any_eq_true, StatementOf.compile_inline, opensComment, beq_iff_eq]
  cases hbad : s.allExprs.any Expr.subtractsNegative with
  | true =>
    rw [hbad] at hscan
    exact iff_of_true hscan rfl
  | false =>
    rw [hbad] at hscan
    refine iff_of_false ?_ Bool.false_ne_true
    rcases hscan with hcode | ⟨region, -, hclosed⟩
    · simp [hcode]
    · simp [hclosed]

/-- The selection of a total less a negative number. -/
def selectionOfDifference : Statement :=
  let invoices : Table := { schema? := none, name := "Invoice", enclosed := false, id := ⟨0, 0⟩ }
  let total : Expr :=
    .column { table := invoices, name := "Total", enclosed := false, type := .int }
  .select
    { head :=
        { fields := [.arithmetic .sub total (.value .int (.int (-5)))]
          source? := some invoices } }

/-- Nothing in the selection is taken over as it is, but a reader of its text,
`SELECT (Total--5) FROM Invoice`, finds a comment behind the name of the column, which hides the
table to select from. -/
theorem opensComment_selectionOfDifference :
    (∀ e ∈ selectionOfDifference.allExprs, e.isPlain) ∧
      opensComment .sqlServer (selectionOfDifference.compile .sqlServer .inline).sql ∧
      opensComment .postgres (selectionOfDifference.compile .postgres .inline).sql :=
  ⟨by decide, by decide +kernel, by decide +kernel⟩

/-- The subtraction of the selection is found among its expressions, without reading its text. -/
theorem selectionOfDifference_opensComment_of_subtraction :
    (∀ e ∈ selectionOfDifference.allExprs, e.isPlain) ∧
      opensComment .postgres (selectionOfDifference.compile .postgres .inline).sql := by
  have hplain : ∀ e ∈ selectionOfDifference.allExprs, e.isPlain := by decide
  have hsubtracts : ∃ e ∈ selectionOfDifference.allExprs, e.subtractsNegative := by decide
  exact ⟨hplain, (inline_opensComment_iff .postgres selectionOfDifference hplain).2 hsubtracts⟩

end TypedSql
