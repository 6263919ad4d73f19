import TypedSql.Proofs.Lexemes
import TypedSql.Proofs.Traversal
import TypedSql.Proofs.Writing
/-!
# Elementary conditions

Conditions without nested statements and without text that is taken over as it is. Rendered, they
are words, columns and placeholders in a fixed order: a level is a test of an expression, two
conditions in parentheses with a connective, or the opposite of one.

## Main definitions

- `Expr.IsElementary`, `Condition.IsElementary`: the conditions, over columns of given tables.
- `Expr.stripped`, `Condition.stripped`: without what quoting and declarations say of columns.
- `RowTest`, `Predicate.test?`, `Predicate.connective?`: the kinds of levels.
- `Piece.BeginsOperand`: the pieces that expressions begin with.

## Main statements

- `Condition.render_append_of_test?`, `Condition.render_append_of_connective?`,
  `Condition.render_append_not`: the pieces of a level, in front of others.
- `Expr.render_append_ne_symbol`: parentheses are the only symbols that expressions begin with.
-/

namespace TypedSql

section Elementary

variable (tables : List Table)

mutual

/-- The expression is built from columns of the tables, values, slots, arithmetic and the functions
that the dialects have names for. -/
def Expr.IsElementary : Expr → Prop
  | .column c => c.table ∈ tables
  | .value _ _ => True
  | .slot _ _ => True
  | .call function args =>
    (function ∈ SqlFunction.known ∧ (function = .countAll → args = []))
      ∧ Expr.AreElementary args
  | .arithmetic _ left right => left.IsElementary ∧ right.IsElementary
  | .raw _ => False

/-- Each expression of the list is elementary. -/
def Expr.AreElementary : List Expr → Prop
  | [] => True
  | e :: rest => e.IsElementary ∧ Expr.AreElementary rest

end

theorem Expr.areElementary_iff {es : List Expr} :
    Expr.AreElementary tables es ↔ ∀ e ∈ es, e.IsElementary tables := by
  induction es with
  | nil => simp [AreElementary]
  | cons e es ih => simp [AreElementary, ih]

/-- The level is a comparison, a connective, a range, a list, a test for `NULL`, or a pattern match
that the dialect has an operator for. -/
def Predicate.IsElementary {γ : Type} (d : Dialect) : Predicate γ → Prop
  | .inQuery .. => False
  | .existsQuery .. => False
  | .like kind _ _ => d = .sqlServer → kind.ignoresCase = false
  | .raw _ => False
  | _ => True

/-- The condition is built from elementary levels over elementary expressions. -/
def Condition.IsElementary (d : Dialect) : Condition → Prop :=
  Condition.fold fun p =>
    p.IsElementary d ∧ (∀ e ∈ p.exprs, e.IsElementary tables) ∧ ∀ h ∈ p.children, h

variable {tables}

theorem Condition.isElementary_of {d : Dialect} {p : Predicate Condition} :
    (Condition.of p).IsElementary tables d ↔
      p.IsElementary d ∧ (∀ e ∈ p.exprs, e.IsElementary tables) ∧
        ∀ c ∈ p.children, c.IsElementary tables d := by
  have hlevel : (p.map (Condition.IsElementary tables d)).IsElementary d ↔ p.IsElementary d := by
    cases p <;> exact Iff.rfl
  unfold IsElementary at hlevel ⊢
  rw [fold_of, hlevel, Predicate.exprs_map, Predicate.children_map, List.forall_mem_map]

/-- The column without what its quoting and its declaration say. -/
def Column.stripped (c : Column) : Column := { c with enclosed := false, type := .int }

mutual

/-- The expression with its columns stripped. -/
def Expr.stripped : Expr → Expr
  | .column c => .column c.stripped
  | .value type v => .value type v
  | .slot index type => .slot index type
  | .call function args => .call function (Expr.strippedList args)
  | .arithmetic op left right => .arithmetic op left.stripped right.stripped
  | .raw sql => .raw sql

/-- The expressions of a list with their columns stripped. -/
def Expr.strippedList : List Expr → List Expr
  | [] => []
  | e :: rest => e.stripped :: Expr.strippedList rest

end

theorem Expr.strippedList_eq_map (es : List Expr) :
    Expr.strippedList es = es.map Expr.stripped := by
  induction es with
  | nil => rfl
  | cons e es ih => rw [strippedList, ih, List.map_cons]

/-- The condition with its columns stripped. -/
def Condition.stripped : Condition → Condition := Condition.mapExprs Expr.stripped

theorem Condition.stripped_of (p : Predicate Condition) :
    (Condition.of p).stripped = .of ((p.map Condition.stripped).mapExprs Expr.stripped) := by
  rw [stripped, mapExprs, fold_of]

end Elementary

/-- Fragments with a comma before each. -/
def Fragment.afterCommas (fs : List Fragment) : Fragment := fs.flatMap (.text "," :: ·)

theorem Fragment.commaSeparated_cons (f : Fragment) (fs : List Fragment) :
    commaSeparated (f :: fs) = f ++ afterCommas fs := by
  induction fs generalizing f with
  | nil => simp [afterCommas]
  | cons g fs ih =>
    rw [commaSeparated_cons_cons, ih g]
    simp [afterCommas, ofText]

/-- What stands in front of the arguments of a call, or in their place. -/
def SqlFunction.marker : SqlFunction → Fragment
  | .countAll => .ofText "*"
  | .countDistinct => .ofText "DISTINCT "
  | _ => []

section Levels

/-- The operator of a pattern match. -/
def PatternMatch.operator : PatternMatch → String
  | ⟨true, true⟩ => " NOT ILIKE "
  | ⟨true, false⟩ => " ILIKE "
  | ⟨false, true⟩ => " NOT LIKE "
  | ⟨false, false⟩ => " LIKE "

/-- What a level asks of the expression that it begins with. -/
inductive RowTest where
  | compare (op : Comparison)
  | between (negated : Bool)
  | inList (negated : Bool)
  | isNull (negated : Bool)
  | like (kind : PatternMatch)
deriving DecidableEq

namespace RowTest

/-- The word for a test, behind the expression. -/
def word : RowTest → String
  | compare op => op.symbol
  | between negated => if negated then " NOT BETWEEN " else " BETWEEN "
  | inList negated => if negated then " NOT IN" else " IN"
  | isNull negated => if negated then " IS NOT NULL" else " IS NULL"
  | like kind => kind.operator

/-- The tests that there are. -/
def all : List RowTest :=
  [.eq, .ne, .lt, .le, .gt, .ge].map compare
    ++ [true, false].flatMap fun negated =>
      [between negated, inList negated, isNull negated, like ⟨true, negated⟩, like ⟨false, negated⟩]

theorem mem_all (t : RowTest) : t ∈ all := by
  cases t with
  | compare op => cases op <;> decide
  | between negated => cases negated <;> decide
  | inList negated => cases negated <;> decide
  | isNull negated => cases negated <;> decide
  | like kind =>
    obtain ⟨ignoresCase, negated⟩ := kind
    cases ignoresCase <;> cases negated <;> decide

theorem word_injective : Function.Injective word := by
  have hwords : ∀ t ∈ all, ∀ t' ∈ all, t.word = t'.word → t = t' := by decide +kernel
  intro t t' h
  exact hwords t t.mem_all t' t'.mem_all h

theorem symbol_ne_word (op : ArithmeticOp) (t : RowTest) : op.symbol ≠ t.word := by
  have hwords : ∀ op ∈ [ArithmeticOp.add, .sub, .mul, .div], ∀ t ∈ all, op.symbol ≠ t.word := by
    decide
  exact hwords op (by cases op <;> decide) t t.mem_all

theorem head?_word (t : RowTest) : t.word.toList.head?.any literalFollowers.contains := by
  have hwords : ∀ t ∈ all, t.word.toList.head?.any literalFollowers.contains := by decide
  exact hwords t t.mem_all

end RowTest

variable {γ : Type}

/-- The expression that a level begins with and the test of it, if it is a test. -/
def Predicate.test? : Predicate γ → Option (Expr × RowTest)
  | .compare op left _ => some (left, .compare op)
  | .between expr _ _ negated => some (expr, .between negated)
  | .inList expr _ negated => some (expr, .inList negated)
  | .isNull expr negated => some (expr, .isNull negated)
  | .like kind expr _ => some (expr, .like kind)
  | _ => none

/-- What follows the word for the test of a level. -/
def Predicate.operands (d : Dialect) : Predicate γ → Fragment
  | .compare _ _ right => right.render d true
  | .between _ low high _ => low.render d true ++ .text " AND " :: high.render d true
  | .inList _ items _ =>
    .text "(" :: (Fragment.commaSeparated (Expr.renderList d true items) ++ [.text ")"])
  | .like _ _ pattern => pattern.render d true
  | _ => []

/-- The two conditions of a level and the connective between them, if it has one. -/
def Predicate.connective? : Predicate γ → Option (String × γ × γ)
  | .and left right => some (" AND ", left, right)
  | .or left right => some (" OR ", left, right)
  | _ => none

/-- A level that tests an expression is written as the expression, the word and the rest. -/
theorem Predicate.fragment_eq_test {d : Dialect} {p : Predicate RenderedCondition} {e : Expr}
    {t : RowTest} (hp : p.IsElementary d) (h : p.test? = some (e, t)) :
    p.fragment d true = e.render d true ++ .text t.word :: p.operands d := by
  cases p with
  | compare op left right =>
    cases h
    simp [fragment, operands, RowTest.word, Fragment.ofText]
  | between expr low high negated =>
    cases h
    simp [fragment, operands, RowTest.word, Fragment.ofText]
  | inList expr items negated =>
    cases h
    simp [fragment, operands, RowTest.word, Fragment.ofText, Fragment.parenthesised,
      Expr.renderCommaSeparated, Expr.renderList_eq_map]
  | isNull expr negated =>
    cases h
    simp [fragment, operands, RowTest.word, Fragment.ofText]
  | like kind expr pattern =>
    cases h
    obtain ⟨ignoresCase, negated⟩ := kind
    cases d <;> cases ignoresCase <;> cases negated <;>
      simp_all [IsElementary, fragment, operands, RowTest.word, PatternMatch.render,
        PatternMatch.operator, Fragment.ofText]
  | _ => cases h

theorem Predicate.test?_map {δ : Type} (f : γ → δ) (p : Predicate γ) :
    (p.map f).test? = p.test? := by
  cases p <;> rfl

theorem Predicate.operands_map {δ : Type} (d : Dialect) (f : γ → δ) (p : Predicate γ) :
    (p.map f).operands d = p.operands d := by
  cases p <;> rfl

theorem Predicate.isElementary_map {δ : Type} {d : Dialect} (f : γ → δ) {p : Predicate γ} :
    (p.map f).IsElementary d ↔ p.IsElementary d := by
  cases p <;> exact Iff.rfl

theorem Predicate.mem_exprs_of_test? {p : Predicate γ} {e : Expr} {t : RowTest}
    (h : p.test? = some (e, t)) : e ∈ p.exprs := by
  cases p <;> simp_all [test?, exprs]

/-- A level is a test of an expression, two conditions with a connective, or the opposite of one. -/
theorem Predicate.IsElementary.cases {d : Dialect} {p : Predicate γ} (h : p.IsElementary d) :
    (∃ e t, p.test? = some (e, t)) ∨ (∃ word left right, p.connective? = some (word, left, right)) ∨
      ∃ inner, p = .not inner := by
  cases p <;> simp_all [IsElementary, test?, connective?]

theorem Predicate.IsElementary.cases_of_test?_eq_none {d : Dialect} {p : Predicate γ}
    (h : p.IsElementary d) (hnone : p.test? = none) :
    (∃ word left right, p.connective? = some (word, left, right)) ∨ ∃ inner, p = .not inner := by
  refine h.cases.resolve_left ?_
  rintro ⟨e, t, htest⟩
  rw [hnone] at htest
  cases htest

theorem Predicate.mem_of_connective? {p : Predicate γ} {word : String} {left right : γ}
    (h : p.connective? = some (word, left, right)) :
    word ∈ [" AND ", " OR "] ∧ left ∈ p.children ∧ right ∈ p.children := by
  cases p with
  | and left' right' => cases h; simp [children]
  | or left' right' => cases h; simp [children]
  | _ => cases h

theorem Predicate.eq_of_connective_eq {p p' : Predicate Condition} {word : String}
    {left right left' right' : Condition} (h : p.connective? = some (word, left, right))
    (h' : p'.connective? = some (word, left', right')) (hleft : left.stripped = left'.stripped)
    (hright : right.stripped = right'.stripped) :
    (p.map Condition.stripped).mapExprs Expr.stripped =
      (p'.map Condition.stripped).mapExprs Expr.stripped := by
  cases p with
  | and left right =>
    cases h
    cases p' with
    | and left' right' =>
      cases h'
      simp [map, mapExprs, hleft, hright]
    | _ => simp [connective?] at h'
  | or left right =>
    cases h
    cases p' with
    | or left' right' =>
      cases h'
      simp [map, mapExprs, hleft, hright]
    | _ => simp [connective?] at h'
  | _ => cases h

section Conditions

variable {d : Dialect} {p : Predicate Condition} (rest : Fragment)

theorem Condition.render_append_of_test? {e : Expr} {t : RowTest} (hp : p.IsElementary d)
    (h : p.test? = some (e, t)) :
    (Condition.of p).render d true ++ rest =
      e.render d true ++ .text t.word :: (p.operands d ++ rest) := by
  rw [render_of, Predicate.fragment_eq_test ((Predicate.isElementary_map _).2 hp)
    ((Predicate.test?_map _ p).trans h), Predicate.operands_map, List.append_assoc,
    List.cons_append]

theorem Condition.render_append_of_connective? {word : String} {left right : Condition}
    (h : p.connective? = some (word, left, right)) :
    (Condition.of p).render d true ++ rest =
      .text "(" :: (left.render d true ++ .text ")" :: .text word :: .text "("
        :: (right.render d true ++ .text ")" :: rest)) := by
  rw [render_of]
  cases p with
  | and left' right' =>
    cases h
    simp [Predicate.map, Predicate.fragment, Fragment.connected, Fragment.parenthesised,
      Fragment.ofText, render]
  | or left' right' =>
    cases h
    simp [Predicate.map, Predicate.fragment, Fragment.connected, Fragment.parenthesised,
      Fragment.ofText, render]
  | _ => cases h

theorem Condition.render_append_not (inner : Condition) :
    (Condition.of (.not inner)).render d true ++ rest =
      .text "NOT " :: .text "(" :: (inner.render d true ++ .text ")" :: rest) := by
  rw [render_of]
  simp [Predicate.map, Predicate.fragment, Fragment.parenthesised, Fragment.ofText, render]

end Conditions

end Levels

section Operands

variable {tables : List Table} {d : Dialect}

theorem Dialect.functionName_mem_words (d : Dialect) {function : SqlFunction}
    (h : function ∈ SqlFunction.known) : d.functionName function ∈ d.words :=
  List.mem_append_right _ (List.mem_map_of_mem h)

theorem Dialect.columnReference_ne_word (c : Column) {s : String} (hs : s ∈ d.words) :
    d.columnReference true c ≠ s := by
  rintro rfl
  obtain ⟨first, cs, hcs, hfirst⟩ := Dialect.exists_cons_of_mem_words hs
  obtain ⟨cs', hcs'⟩ := d.exists_cons_columnReference c
  rw [hcs', List.cons.injEq] at hcs
  rw [← hcs.1] at hfirst
  exact hfirst (by decide)

theorem Dialect.functionName_not_mem_symbols {function : SqlFunction}
    (h : function ∈ SqlFunction.known) : d.functionName function ∉ symbols := by
  revert function
  cases d <;> decide

theorem Dialect.exists_cons_functionName {function : SqlFunction}
    (h : function ∈ SqlFunction.known) :
    ∃ c cs, (d.functionName function).toList = c :: cs ∧ c ∉ ['=', '>'] := by
  have hfirst : ∀ function ∈ SqlFunction.known,
      (d.functionName function).toList.head?.any fun c => c ∉ ['=', '>'] := by
    cases d <;> decide
  obtain ⟨c, hc, hmem⟩ := (Option.any_eq_true _ _).1 (hfirst function h)
  obtain ⟨cs, hcs⟩ := List.head?_eq_some_iff.1 hc
  exact ⟨c, cs, hcs, of_decide_eq_true hmem⟩

theorem Expr.render_call_append {function : SqlFunction} {args : List Expr}
    (h : function = .countAll → args = []) (r : Fragment) :
    (call function args).render d true ++ r =
      .text (d.functionName function) :: .text "(" :: (function.marker
        ++ (Fragment.commaSeparated (renderList d true args) ++ .text ")" :: r)) := by
  cases function with
  | countAll =>
    rw [h rfl]
    rfl
  | _ =>
    simp [render, SqlFunction.renderCall, SqlFunction.marker, Fragment.parenthesised,
      Fragment.ofText]

theorem Expr.render_arithmetic_append (op : ArithmeticOp) (left right : Expr) (r : Fragment) :
    (arithmetic op left right).render d true ++ r =
      .text "(" :: (left.render d true ++ .text op.symbol
        :: (right.render d true ++ .text ")" :: r)) := by
  simp [render, Fragment.parenthesised, Fragment.ofText]

/-- The piece begins an expression. -/
inductive Piece.BeginsOperand (d : Dialect) : Piece → Prop where
  | reference (c : Column) : BeginsOperand d (.text (d.columnReference true c))
  | placeholder (b : Binding) : BeginsOperand d (.binding b)
  | function {function : SqlFunction} (h : function ∈ SqlFunction.known) :
      BeginsOperand d (.text (d.functionName function))
  | parenthesis : BeginsOperand d (.text "(")

theorem Expr.exists_cons_render {e : Expr} (h : e.IsElementary tables) :
    ∃ p f, e.render d true = p :: f ∧ p.BeginsOperand d := by
  cases e with
  | column c => exact ⟨_, [], rfl, .reference c⟩
  | value type v => exact ⟨_, [], rfl, .placeholder _⟩
  | slot index type => exact ⟨_, [], rfl, .placeholder _⟩
  | call function args =>
    obtain ⟨⟨hknown, hcount⟩, -⟩ := h
    have hcall := render_call_append (d := d) hcount []
    rw [List.append_nil] at hcall
    exact ⟨_, _, hcall, .function hknown⟩
  | arithmetic op left right => exact ⟨_, _, rfl, .parenthesis⟩
  | raw sql => exact h.elim

namespace Piece.BeginsOperand

theorem ne_symbol {p : Piece} (h : p.BeginsOperand d) {s : String} (hs : s ∈ symbols)
    (hs' : s ≠ "(") : p ≠ .text s := by
  rintro rfl
  generalize hpiece : Piece.text s = p at h
  cases h with
  | reference c =>
    exact d.columnReference_ne_word c (List.mem_append_left _ hs) (Piece.text.inj hpiece).symm
  | placeholder b => cases hpiece
  | function hknown =>
    rw [Piece.text.inj hpiece] at hs
    exact Dialect.functionName_not_mem_symbols hknown hs
  | parenthesis => exact hs' (Piece.text.inj hpiece)

/-- No comparison goes on with the first character of an expression. -/
theorem exists_cons_spelling {p : Piece} (h : p.BeginsOperand d) (style : PlaceholderStyle)
    (position : Nat) : ∃ c cs, p.spelling style position = c :: cs ∧ c ∉ ['=', '>'] := by
  cases h with
  | reference c =>
    obtain ⟨cs, hcs⟩ := d.exists_cons_columnReference c
    exact ⟨'_', cs, hcs, by decide⟩
  | placeholder b =>
    obtain ⟨c, cs, hcs, hc⟩ := style.exists_cons_placeholder position
    refine ⟨c, cs, hcs, ?_⟩
    rw [List.mem_pair] at hc
    rcases hc with rfl | rfl <;> decide
  | function hknown => exact Dialect.exists_cons_functionName hknown
  | parenthesis => exact ⟨'(', [], rfl, by decide⟩

end Piece.BeginsOperand

/-- Parentheses are the only symbols that expressions begin with. -/
theorem Expr.render_append_ne_symbol {e : Expr} (he : e.IsElementary tables) {s : String}
    (hs : s ∈ symbols) (hs' : s ≠ "(") (f f' : Fragment) :
    e.render d true ++ f ≠ .text s :: f' := by
  obtain ⟨p, rest, hrest, hbegins⟩ := Expr.exists_cons_render (d := d) he
  rw [hrest]
  intro h
  exact hbegins.ne_symbol hs hs' (List.cons.inj h).1

end Operands

end TypedSql
