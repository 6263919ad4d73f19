import TypedSql.Proofs.InlineText
import TypedSql.Proofs.Replacement
/-!
# Balanced statements

A reader that knows quoted regions, and nothing else of the language, counts the parentheses that
are open outside of them. At the end of a statement it stands outside of quoted regions and nothing
is open, and on the way nothing was closed that had not been opened. What names and values are made
of has no influence on that, and neither has whether values are written or bound.

## Main definitions

- `Quotation`, `Region`: quoted regions, and where the reader stands.
- `Nesting`, `Nesting.step?`: the reader with its count, and how it reads a character.
- `isBalanced`: whether the reader comes to the end of a text with nothing left open.

## Main statements

- `Lexical.foldlM_step?`: what a text with lexical structure opens is closed in it.
- `Fragment.foldlM_step?_boundSqlFrom`: the reader takes a placeholder for a slot that is written.
- `statements_are_balanced`: the texts of a statement are balanced.
-/

namespace TypedSql

/-- What stands in a quoted region. -/
inductive Quotation where
  | text
  | name
deriving DecidableEq

/-- Around texts stand apostrophes, around names the quotes of the dialect. -/
def Dialect.delimiters (d : Dialect) : Quotation → Char × Char
  | .text => ('\'', '\'')
  | .name => d.quotes

/-- The quoted region that a character opens. -/
def Quotation.opened? (d : Dialect) (c : Char) : Option Quotation :=
  if c = (d.delimiters .text).1 then some .text
  else if c = (d.delimiters .name).1 then some .name
  else none

/-- Where the reader stands: outside of quoted regions, in one, or behind the end of one, which the
same delimiter once more would undo. -/
inductive Region where
  | outside
  | within (q : Quotation)
  | behind (q : Quotation)
deriving DecidableEq

/-- Where the reader stands, and how many parentheses are open. -/
structure Nesting where
  region : Region := .outside
  depth : Nat := 0

namespace Nesting

/-- Reads a character outside of quoted regions. What is not open cannot be closed. -/
def outside? (d : Dialect) (depth : Nat) (c : Char) : Option Nesting :=
  match Quotation.opened? d c with
  | some q => some ⟨.within q, depth⟩
  | none =>
    if c = '(' then some ⟨.outside, depth + 1⟩
    else if c = ')' then
      match depth with
      | 0 => none
      | depth + 1 => some ⟨.outside, depth⟩
    else some ⟨.outside, depth⟩

/-- Reads a character. Within a quoted region only its closing delimiter counts. -/
def step? (d : Dialect) (n : Nesting) (c : Char) : Option Nesting :=
  match n.region with
  | .outside => outside? d n.depth c
  | .within q =>
    some ⟨if c = (d.delimiters q).2 then .behind q else .within q, n.depth⟩
  | .behind q =>
    if c = (d.delimiters q).2 then some ⟨.within q, n.depth⟩ else outside? d n.depth c

/-- Whether nothing is open, neither a parenthesis nor a quoted region. -/
def isClosed (n : Nesting) : Bool :=
  match n.region with
  | .within _ => false
  | _ => n.depth == 0

end Nesting

/-- Whether all parentheses and quoted regions of a text are closed, and none before it is
opened. -/
def isBalanced (d : Dialect) (sql : String) : Bool :=
  (sql.toList.foldlM (Nesting.step? d) {}).any Nesting.isClosed

-- brackets quote a name for one dialect only
example :
    isBalanced .sqlServer "(SELECT [a)]]] FROM b)" ∧
      ¬ isBalanced .postgres "(SELECT [a)]]] FROM b)" ∧
      ¬ isBalanced .postgres ")(" ∧ ¬ isBalanced .postgres "'it''s" := by decide

section Characters

/-- The characters that neither delimit a region nor are parentheses. -/
def isNeutral (c : Char) : Bool := !(['\'', '"', '[', ']', '(', ')'].contains c)

theorem isNeutral_of_isOrdinary {c : Char} (h : isOrdinary c) : isNeutral c := by
  unfold isOrdinary delimiting at h
  unfold isNeutral
  simp_all

variable {d : Dialect} {c : Char}

theorem Quotation.ne_closing_of_isNeutral (h : isNeutral c) (q : Quotation) :
    c ≠ (d.delimiters q).2 := by
  rintro rfl
  revert h
  cases d <;> cases q <;> decide

theorem Quotation.opened?_eq_none (h : isNeutral c) : opened? d c = none := by
  have hne (q : Quotation) : c ≠ (d.delimiters q).1 := by
    rintro rfl
    revert h
    cases d <;> cases q <;> decide
  rw [opened?, if_neg (hne .text), if_neg (hne .name)]

theorem Quotation.opened?_delimiters (q : Quotation) :
    opened? d (d.delimiters q).1 = some q := by
  cases d <;> cases q <;> decide

end Characters

namespace Nesting

variable {d : Dialect}

/-- Where the reader stands after a word: quoted regions go on, and what is behind one is not. -/
def passed (n : Nesting) : Nesting :=
  match n.region with
  | .within q => ⟨.within q, n.depth⟩
  | _ => ⟨.outside, n.depth⟩

theorem passed_passed (n : Nesting) : n.passed.passed = n.passed := by
  obtain ⟨region, depth⟩ := n
  cases region <;> rfl

theorem outside?_neutral {c : Char} (h : isNeutral c) (depth : Nat) :
    outside? d depth c = some ⟨.outside, depth⟩ := by
  have hparenthesis : c ≠ '(' ∧ c ≠ ')' := by
    constructor <;> (rintro rfl; exact absurd h (by decide))
  simp [outside?.eq_def, Quotation.opened?_eq_none h, hparenthesis]

theorem step?_neutral {c : Char} (h : isNeutral c) (n : Nesting) : step? d n c = some n.passed := by
  obtain ⟨region, depth⟩ := n
  cases region with
  | outside => exact outside?_neutral h depth
  | within q => simp [step?, passed, Quotation.ne_closing_of_isNeutral h q]
  | behind q =>
    simp [step?, passed, Quotation.ne_closing_of_isNeutral h q, outside?_neutral h depth]

/-- All words lead to the same place. -/
theorem foldlM_neutral {c : Char} {cs : List Char} (h : ∀ x ∈ c :: cs, isNeutral x)
    (n : Nesting) : (c :: cs).foldlM (step? d) n = some n.passed := by
  induction cs generalizing c n with
  | nil => simp [step?_neutral (h c List.mem_cons_self)]
  | cons next rest ih =>
    rw [List.forall_mem_cons] at h
    rw [List.foldlM_cons, step?_neutral h.1, Option.bind_eq_bind, Option.bind_some, ih h.2,
      passed_passed]

theorem foldlM_word {s : String} (h : isWord s) (n : Nesting) :
    s.toList.foldlM (step? d) n = some n.passed := by
  obtain ⟨c, cs, hcs, hordinary⟩ := exists_cons_of_isWord h
  rw [hcs]
  exact foldlM_neutral (fun x hx => isNeutral_of_isOrdinary (hordinary x hx)) n

/-- Within a quoted region doubled delimiters are passed over. -/
theorem foldlM_doubled (q : Quotation) (depth : Nat) (cs : List Char) :
    (Delimited.doubled (d.delimiters q).2 cs).foldlM (step? d) ⟨.within q, depth⟩ =
      some ⟨.within q, depth⟩ := by
  induction cs with
  | nil => rfl
  | cons c cs ih =>
    have hcons : Delimited.doubled (d.delimiters q).2 (c :: cs) =
        (if c = (d.delimiters q).2 then [(d.delimiters q).2, c] else [c])
          ++ Delimited.doubled (d.delimiters q).2 cs := rfl
    rw [hcons, List.foldlM_append]
    by_cases hc : c = (d.delimiters q).2
    · -- of a pair, the second half undoes the end that the first one makes
      simpa [hc, step?] using ih
    · simpa [hc, step?] using ih

end Nesting

/-- Where the reader can stand at an edge. -/
def Edge.Borders : Edge → Region → Prop
  | ordinary, r => r = .outside
  | complete, r => ∀ q, r ≠ .within q

section Reading

variable {d : Dialect}

theorem Edge.Borders.weaken {r : Region} (h : Edge.ordinary.Borders r) :
    Edge.complete.Borders r := by
  rintro q rfl
  cases h

theorem Edge.Borders.passed {n : Nesting} (h : Edge.complete.Borders n.region) :
    n.passed = ⟨.outside, n.depth⟩ := by
  obtain ⟨region, depth⟩ := n
  cases region with
  | within q => exact absurd rfl (h q)
  | outside => rfl
  | behind q => rfl

theorem Edge.Borders.step?_open {n : Nesting} (h : Edge.complete.Borders n.region) :
    n.step? d '(' = some ⟨.outside, n.depth + 1⟩ := by
  obtain ⟨region, depth⟩ := n
  cases region with
  | within q => exact absurd rfl (h q)
  | outside => cases d <;> rfl
  | behind q => cases d <;> cases q <;> rfl

theorem Edge.Borders.step?_close {region : Region} (h : Edge.complete.Borders region)
    (depth : Nat) : Nesting.step? d ⟨region, depth + 1⟩ ')' = some ⟨.outside, depth⟩ := by
  cases region with
  | within q => exact absurd rfl (h q)
  | outside => cases d <;> rfl
  | behind q => cases d <;> cases q <;> rfl

theorem Dialect.exists_of_mem_regions {region : Char × Char} (h : region ∈ d.regions) :
    ∃ q, region = d.delimiters q := by
  rcases List.mem_pair.1 h with rfl | rfl
  · exact ⟨.text, rfl⟩
  · exact ⟨.name, rfl⟩

/-- Behind a text with lexical structure the reader stands at the edge where it ends, and as many
parentheses are open as before. -/
theorem Lexical.foldlM_step? {e e' : Edge} {b : Bool} {cs : List Char} (h : Lexical d e e' b cs) :
    ∀ n : Nesting, e.Borders n.region →
      ∃ region, e'.Borders region ∧ cs.foldlM (Nesting.step? d) n = some ⟨region, n.depth⟩ := by
  -- on how the text is made; the count is left open, as texts stand within parentheses
  induction h with
  | empty e => exact fun n hn => ⟨n.region, hn, rfl⟩
  | @ordinary c cs h =>
    intro n hn
    refine ⟨.outside, rfl, ?_⟩
    rw [Nesting.foldlM_neutral fun x hx => isNeutral_of_isOrdinary (h x hx), hn.passed]
  | @quoted delimiters h cs =>
    intro n hn
    obtain ⟨q, rfl⟩ := Dialect.exists_of_mem_regions h
    refine ⟨.behind q, fun q' => by simp, ?_⟩
    have hopening : n.step? d (d.delimiters q).1 = some ⟨.within q, n.depth⟩ := by
      obtain ⟨region, depth⟩ := n
      cases hn
      simp [Nesting.step?, Nesting.outside?, Quotation.opened?_delimiters]
    rw [List.cons_append, List.foldlM_cons, hopening, Option.bind_eq_bind, Option.bind_some,
      List.foldlM_append, Nesting.foldlM_doubled]
    simp [Nesting.step?]
  | @negative c cs h =>
    intro n hn
    refine ⟨.outside, rfl, ?_⟩
    have hneutral : ∀ x ∈ '-' :: c :: cs, isNeutral x := by
      rw [List.forall_mem_cons]
      exact ⟨rfl, fun x hx => isNeutral_of_isOrdinary (h x hx)⟩
    rw [Nesting.foldlM_neutral hneutral, (Edge.Borders.weaken hn).passed]
  | @parenthesised b cs h ih =>
    intro n hn
    obtain ⟨region, hregion, hrun⟩ := ih ⟨.outside, n.depth + 1⟩ rfl
    refine ⟨.outside, rfl, ?_⟩
    simp [hn.step?_open, List.foldlM_append, hrun, hregion.step?_close]
  | @arithmetic op b b' left right hleft hright hstar ihleft ihright =>
    intro n hn
    obtain ⟨region, hregion, hrun⟩ := ihleft ⟨.outside, n.depth + 1⟩ rfl
    obtain ⟨region', hregion', hrun'⟩ := ihright ⟨.outside, n.depth + 1⟩ rfl
    have hoperator : op.symbol.toList.foldlM (Nesting.step? d) ⟨region, n.depth + 1⟩ =
        some ⟨.outside, n.depth + 1⟩ := by
      have hsymbol : ∃ c, op.symbol.toList = [c] ∧ isNeutral c := by
        cases op
        exacts [⟨'+', rfl, rfl⟩, ⟨'-', rfl, rfl⟩, ⟨'*', rfl, rfl⟩, ⟨'/', rfl, rfl⟩]
      obtain ⟨c, hc, hneutral⟩ := hsymbol
      rw [hc, Nesting.foldlM_neutral (by simpa using hneutral), Edge.Borders.passed hregion]
    refine ⟨.outside, rfl, ?_⟩
    simp [hn.step?_open, List.foldlM_append, hrun, hoperator, hrun', hregion'.step?_close]
  | append h h' ih ih' =>
    intro n hn
    obtain ⟨region, hregion, hrun⟩ := ih n hn
    obtain ⟨region', hregion', hrun'⟩ := ih' ⟨region, n.depth⟩ hregion
    refine ⟨region', hregion', ?_⟩
    rw [List.foldlM_append, hrun, Option.bind_eq_bind, Option.bind_some, hrun']
  | strengthenBefore h ih => exact fun n hn => ih n (Edge.Borders.weaken hn)
  | weakenAfter h ih =>
    intro n hn
    obtain ⟨region, hregion, hrun⟩ := ih n hn
    exact ⟨region, Edge.Borders.weaken hregion, hrun⟩

theorem Lexical.isBalanced {e : Edge} {b : Bool} {sql : String}
    (h : Lexical d .complete e b sql.toList) : isBalanced d sql := by
  obtain ⟨region, hregion, hrun⟩ := h.foldlM_step? {} fun q => by simp
  rw [TypedSql.isBalanced, hrun, Option.any_some]
  cases region with
  | within q =>
    cases e with
    | ordinary => cases hregion
    | complete => exact absurd rfl (hregion q)
  | _ => rfl

end Reading

section Placeholders

variable (d : Dialect)

/-- What a placeholder or a slot is written as makes no difference to the reader. -/
theorem Fragment.foldlM_step?_boundSqlFrom (f : Fragment) (position : Nat) (n : Nesting) :
    (f.boundSqlFrom d.placeholderStyle position).toList.foldlM (Nesting.step? d) n =
      ((f.mapBindings fun _ => .slot 0 .int).inlineSql d).toList.foldlM (Nesting.step? d) n := by
  induction f generalizing position n with
  | nil => rfl
  | cons p f ih =>
    cases p with
    | text s =>
      have hmap : mapBindings (fun _ => .slot 0 .int) (.text s :: f) =
          .text s :: mapBindings (fun _ => .slot 0 .int) f := rfl
      rw [hmap, boundSqlFrom, inlineSql, String.toList_append, String.toList_append,
        List.foldlM_append, List.foldlM_append]
      exact congrArg _ (funext fun n => ih position n)
    | binding b =>
      have hmap : mapBindings (fun _ => .slot 0 .int) (.binding b :: f) =
          .binding (.slot 0 .int) :: mapBindings (fun _ => .slot 0 .int) f := rfl
      have hplaceholder : isWord (d.placeholderStyle.placeholder position) := by
        cases d <;> exact isWord_append (by decide) (isWord_toString _)
      have hslot : isWord (Binding.inlineText d (.slot 0 .int)) :=
        show isWord "?" = true from by decide
      rw [hmap, boundSqlFrom, inlineSql, String.toList_append, String.toList_append,
        List.foldlM_append, List.foldlM_append, Nesting.foldlM_word hplaceholder,
        Nesting.foldlM_word hslot]
      exact ih (position + 1) n.passed

mutual

theorem Expr.isPlain_mapBindings (φ : Binding → Binding) :
    ∀ e : Expr, e.isPlain → (e.mapBindings φ).isPlain
  | .column _, _ => rfl
  | .value type v, _ => by
    cases hφ : φ (.fixed type v) <;> simp [mapBindings, Binding.expr, hφ, isPlain]
  | .slot index type, _ => by
    cases hφ : φ (.slot index type) <;> simp [mapBindings, Binding.expr, hφ, isPlain]
  | .call function args, h => by
    simp only [isPlain, Bool.and_eq_true] at h
    simp [mapBindings, isPlain, h.1, Expr.arePlain_mapBindings φ args h.2]
  | .arithmetic op left right, h => by
    simp only [isPlain, Bool.and_eq_true] at h
    simp [mapBindings, isPlain, Expr.isPlain_mapBindings φ left h.1,
      Expr.isPlain_mapBindings φ right h.2]
  | .raw _, h => nomatch h

theorem Expr.arePlain_mapBindings (φ : Binding → Binding) :
    ∀ es : List Expr, Expr.arePlain es → Expr.arePlain (Expr.mapBindingsList φ es)
  | [], _ => rfl
  | e :: rest, h => by
    simp only [arePlain, Bool.and_eq_true] at h
    simp [mapBindingsList, arePlain, Expr.isPlain_mapBindings φ e h.1,
      Expr.arePlain_mapBindings φ rest h.2]

end

theorem StatementOf.isPlain_mapBindings (φ : Binding → Binding) {s : Statement}
    (h : ∀ e ∈ s.allExprs, e.isPlain) : ∀ e ∈ (s.mapBindings φ).allExprs, e.isPlain := by
  rw [mapBindings, allExprs_mapAllExprs fun sql => rfl, List.forall_mem_map]
  exact fun e he => Expr.isPlain_mapBindings φ e (h e he)

end Placeholders

/-- A statement without text taken over as it is, whose functions have plain names, is balanced,
whatever its tables and columns are called and whatever its values are. -/
theorem statements_are_balanced (d : Dialect) (mode : ParameterMode) (s : Statement)
    (h : ∀ e ∈ s.allExprs, e.isPlain) : isBalanced d (s.compile d mode).sql := by
  cases mode with
  | inline =>
    rw [StatementOf.compile_inline]
    exact (StatementOf.reads d s h).isBalanced
  | bind =>
    -- the reader takes the placeholders for the slots of another statement, which are written
    have hslots := StatementOf.isPlain_mapBindings (fun _ => .slot 0 .int) h
    have hbalanced := (StatementOf.reads d _ hslots).isBalanced
    rw [StatementOf.render_mapBindings] at hbalanced
    rw [StatementOf.compile_bind, isBalanced, Fragment.boundSql,
      Fragment.foldlM_step?_boundSqlFrom]
    exact hbalanced

/-- A union with a limited part, where names and a value try to leave their quotes. -/
def hostileUnion : Statement :=
  let invoices : Table :=
    { schema? := some "a\"]", name := "Invoice)", enclosed := false, id := ⟨0, 0⟩ }
  let note : Expr :=
    .column { table := invoices, name := "]('\"", enclosed := false, type := .text }
  let body : SelectBody Condition :=
    { fields := [.call (.custom "Trimmed") [note]]
      source? := some invoices
      filter? := some (.of (.like ⟨true, false⟩ note (.value .text (.text "'; )--")))) }
  .select { head := { body with top? := some 5 }, unions := [(.unionAll, body)] }

/-- The union is balanced, in either dialect and with its value bound or written. -/
theorem isBalanced_hostileUnion :
    (∀ e ∈ hostileUnion.allExprs, e.isPlain) ∧
      ∀ d mode, isBalanced d (hostileUnion.compile d mode).sql := by
  have hplain : ∀ e ∈ hostileUnion.allExprs, e.isPlain := by decide
  exact ⟨hplain, fun d mode => statements_are_balanced d mode hostileUnion hplain⟩

end TypedSql
