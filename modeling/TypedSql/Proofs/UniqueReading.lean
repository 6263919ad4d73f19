import TypedSql.Proofs.LexedConditions
import TypedSql.Proofs.Replacement
/-!
# Unique reading of conditions

The bound text of an elementary condition and its bindings determine the condition, but for the
quoting and the declared types of its columns. So no condition is written as another one, however
its connectives, its arithmetic and the ranges in it are nested.

## Main statements

- `Expr.eq_of_render_append`: the pieces of an expression are read in one way, whatever follows.
- `Condition.render_append_ne_operand`: a condition in parentheses is not read as arithmetic.
- `Condition.eq_of_render_append`: the pieces of a condition are read in one way.
- `bound_conditions_read_uniquely`: the text of a condition is read in one way.

## Design notes

Parentheses open a condition that a connective follows as well as arithmetic. Which it is shows
behind the innermost expression, at an operator or at the word for a test.
-/

namespace TypedSql

section ReadingExpressions

variable {tables : List Table} {d : Dialect} {r r' : Fragment}

section Beginnings

variable {e : Expr} (he : e.IsElementary tables)

include he

/-- Only columns begin with a reference. -/
theorem Expr.of_render_reference {c : Column}
    (h : .text (d.columnReference true c) :: r = e.render d true ++ r') :
    ∃ c', e = .column c' ∧ d.columnReference true c = d.columnReference true c' ∧ r = r' := by
  cases e with
  | column c' =>
    obtain ⟨htext, hrest⟩ := List.cons.inj h
    exact ⟨c', rfl, Piece.text.inj htext, hrest⟩
  | value type v => cases (List.cons.inj h).1
  | slot index type => cases (List.cons.inj h).1
  | call function args =>
    rw [render_call_append he.1.2] at h
    have hname := Piece.text.inj (List.cons.inj h).1
    exact absurd hname (d.columnReference_ne_word c (d.functionName_mem_words he.1.1))
  | arithmetic op left right =>
    rw [render_arithmetic_append] at h
    have hname := Piece.text.inj (List.cons.inj h).1
    exact absurd hname (d.columnReference_ne_word c (List.mem_append_left _ (by decide)))
  | raw sql => exact he.elim

/-- Only values and slots begin with a placeholder. -/
theorem Expr.of_render_placeholder {b : Binding} (h : .binding b :: r = e.render d true ++ r') :
    e = b.expr ∧ r = r' := by
  cases e with
  | column c => cases (List.cons.inj h).1
  | value type v =>
    obtain ⟨hbinding, hrest⟩ := List.cons.inj h
    rw [Piece.binding.inj hbinding]
    exact ⟨rfl, hrest⟩
  | slot index type =>
    obtain ⟨hbinding, hrest⟩ := List.cons.inj h
    rw [Piece.binding.inj hbinding]
    exact ⟨rfl, hrest⟩
  | call function args =>
    rw [render_call_append he.1.2] at h
    cases (List.cons.inj h).1
  | arithmetic op left right =>
    rw [render_arithmetic_append] at h
    cases (List.cons.inj h).1
  | raw sql => exact he.elim

/-- Only calls begin with the name of a function. -/
theorem Expr.of_render_function {function : SqlFunction} (hknown : function ∈ SqlFunction.known)
    (h : .text (d.functionName function) :: r = e.render d true ++ r') :
    ∃ function' args, e = .call function' args ∧
      d.functionName function = d.functionName function' ∧
      r = .text "(" :: (function'.marker
        ++ (Fragment.commaSeparated (renderList d true args) ++ .text ")" :: r')) := by
  cases e with
  | column c =>
    have hname := Piece.text.inj (List.cons.inj h).1
    exact absurd hname.symm (d.columnReference_ne_word c (d.functionName_mem_words hknown))
  | value type v => cases (List.cons.inj h).1
  | slot index type => cases (List.cons.inj h).1
  | call function' args =>
    rw [render_call_append he.1.2] at h
    obtain ⟨htext, hrest⟩ := List.cons.inj h
    exact ⟨function', args, rfl, Piece.text.inj htext, hrest⟩
  | arithmetic op left right =>
    rw [render_arithmetic_append] at h
    have hname := Piece.text.inj (List.cons.inj h).1
    refine absurd ?_ (Dialect.functionName_not_mem_symbols (d := d) hknown)
    rw [hname]
    decide
  | raw sql => exact he.elim

/-- Only arithmetic begins with a parenthesis. -/
theorem Expr.of_render_parenthesis (h : .text "(" :: r = e.render d true ++ r') :
    ∃ op left right, e = .arithmetic op left right ∧
      r = left.render d true ++ .text op.symbol :: (right.render d true ++ .text ")" :: r') := by
  cases e with
  | column c =>
    have hname := Piece.text.inj (List.cons.inj h).1
    exact absurd hname.symm (d.columnReference_ne_word c (List.mem_append_left _ (by decide)))
  | value type v => cases (List.cons.inj h).1
  | slot index type => cases (List.cons.inj h).1
  | call function args =>
    rw [render_call_append he.1.2] at h
    have hname := Piece.text.inj (List.cons.inj h).1
    refine absurd ?_ (Dialect.functionName_not_mem_symbols (d := d) he.1.1)
    rw [← hname]
    decide
  | arithmetic op left right =>
    rw [render_arithmetic_append] at h
    exact ⟨op, left, right, rfl, (List.cons.inj h).2⟩
  | raw sql => exact he.elim

end Beginnings

section Calls

/-- A known function is told by its name and by what stands in front of its arguments. -/
theorem SqlFunction.eq_of_functionName_eq {function function' : SqlFunction}
    (h : function ∈ SqlFunction.known) (h' : function' ∈ SqlFunction.known)
    (hname : d.functionName function = d.functionName function')
    (hmarker : function.marker = function'.marker) : function = function' := by
  have hknown : ∀ f ∈ SqlFunction.known, ∀ f' ∈ SqlFunction.known,
      d.functionName f = d.functionName f' → f.marker = f'.marker → f = f' := by
    cases d <;> decide
  exact hknown function h function' h' hname hmarker

theorem SqlFunction.marker_cases (function : SqlFunction) :
    function.marker = [] ∨ ∃ s ∈ ["*", "DISTINCT "], function.marker = [.text s] := by
  cases function with
  | countAll => exact .inr ⟨"*", by decide, rfl⟩
  | countDistinct => exact .inr ⟨"DISTINCT ", by decide, rfl⟩
  | _ => exact .inl rfl

theorem SqlFunction.marker_append_inj {function function' : SqlFunction} {f f' : Fragment}
    (hf : ∀ s ∈ ["*", "DISTINCT "], ∀ g, f ≠ .text s :: g)
    (hf' : ∀ s ∈ ["*", "DISTINCT "], ∀ g, f' ≠ .text s :: g)
    (h : function.marker ++ f = function'.marker ++ f') :
    function.marker = function'.marker ∧ f = f' := by
  rcases function.marker_cases with hm | ⟨s, hs, hm⟩ <;>
    rcases function'.marker_cases with hm' | ⟨s', hs', hm'⟩ <;> rw [hm, hm'] at h ⊢
  case inl.inl => exact ⟨rfl, h⟩
  case inl.inr => exact absurd h (hf s' hs' f')
  case inr.inl => exact absurd h.symm (hf' s hs f)
  case inr.inr =>
    obtain ⟨hword, hrest⟩ := List.cons.inj h
    exact ⟨by rw [hword], hrest⟩

theorem Expr.args_append_ne_marker {es : List Expr} (h : Expr.AreElementary tables es)
    (r : Fragment) {s : String} (hs : s ∈ ["*", "DISTINCT "]) (f : Fragment) :
    Fragment.commaSeparated (renderList d true es) ++ .text ")" :: r ≠ .text s :: f := by
  have hsymbols : ∀ s ∈ ["*", "DISTINCT "], s ∈ symbols ∧ s ≠ "(" ∧ ")" ≠ s := by decide
  obtain ⟨hsymbol, hopen, hclose⟩ := hsymbols s hs
  cases es with
  | nil =>
    intro h
    exact hclose (Piece.text.inj (List.cons.inj h).1)
  | cons e es =>
    rw [renderList, Fragment.commaSeparated_cons, List.append_assoc]
    exact Expr.render_append_ne_symbol h.1 hsymbol hopen _ f

theorem Expr.args_append_ne_close {e : Expr} (he : e.IsElementary tables) (es : List Expr)
    (f f' : Fragment) :
    Fragment.commaSeparated (renderList d true (e :: es)) ++ f ≠ .text ")" :: f' := by
  rw [renderList, Fragment.commaSeparated_cons, List.append_assoc]
  exact Expr.render_append_ne_symbol he (by decide) (by decide) _ f'

end Calls

/-- Columns of tables with different aliases are told from each other. -/
theorem Column.stripped_eq
    (haliases : ∀ t ∈ tables, ∀ t' ∈ tables, t.aliasName = t'.aliasName → t = t') {c c' : Column}
    (hc : c.table ∈ tables) (hc' : c'.table ∈ tables)
    (h : d.columnReference true c = d.columnReference true c') : c.stripped = c'.stripped := by
  have hnil : FollowsLiteral [] := by simp [FollowsLiteral]
  obtain ⟨halias, hname, -⟩ :=
    Piece.StandsBefore.reference_eq hnil hnil (congrArg (fun s => s.toList ++ []) h)
  rw [stripped, stripped, haliases _ hc _ hc' halias, hname]

theorem ArithmeticOp.symbol_injective : Function.Injective ArithmeticOp.symbol := by
  intro op op' h
  cases op <;> cases op' <;> first | rfl | exact absurd h (by decide)

/-- Of two levels without a test, whose conditions are read in one way only, both are joined by the
same connective or both are the opposite of a condition. -/
theorem Predicate.eq_of_connectives_append {p p' : Predicate Condition}
    (hp : p.IsElementary d) (hp' : p'.IsElementary d) (hnone : p.test? = none)
    (hnone' : p'.test? = none)
    (hchild : ∀ c ∈ p.children, ∀ c' ∈ p'.children, ∀ {r r' : Fragment},
      c.render d true ++ r = c'.render d true ++ r' → c.stripped = c'.stripped ∧ r = r')
    (heq : (Condition.of p).render d true ++ r = (Condition.of p').render d true ++ r') :
    (p.map Condition.stripped).mapExprs Expr.stripped =
      (p'.map Condition.stripped).mapExprs Expr.stripped ∧ r = r' := by
  rcases hp.cases_of_test?_eq_none hnone with ⟨word, left, right, hword⟩ | ⟨inner, rfl⟩ <;>
    rcases hp'.cases_of_test?_eq_none hnone' with ⟨word', left', right', hword'⟩ | ⟨inner', rfl⟩
  case inl.inl =>
    obtain ⟨-, hleft, hright⟩ := Predicate.mem_of_connective? hword
    obtain ⟨-, hleft', hright'⟩ := Predicate.mem_of_connective? hword'
    rw [Condition.render_append_of_connective? r hword,
      Condition.render_append_of_connective? r' hword'] at heq
    obtain ⟨hleftEq, hafter⟩ := hchild left hleft left' hleft' (List.cons.inj heq).2
    simp only [List.cons.injEq, Piece.text.injEq, true_and] at hafter
    obtain ⟨rfl, hafter⟩ := hafter
    obtain ⟨hrightEq, hrest⟩ := hchild right hright right' hright' hafter
    exact ⟨Predicate.eq_of_connective_eq hword hword' hleftEq hrightEq, (List.cons.inj hrest).2⟩
  case inl.inr =>
    rw [Condition.render_append_of_connective? r hword, Condition.render_append_not r' inner'] at heq
    exact absurd (Piece.text.inj (List.cons.inj heq).1) (by decide)
  case inr.inl =>
    rw [Condition.render_append_not r inner, Condition.render_append_of_connective? r' hword'] at heq
    exact absurd (Piece.text.inj (List.cons.inj heq).1) (by decide)
  case inr.inr =>
    rw [Condition.render_append_not r inner, Condition.render_append_not r' inner'] at heq
    obtain ⟨hinner, hrest⟩ := hchild inner List.mem_cons_self inner' List.mem_cons_self
      (List.cons.inj (List.cons.inj heq).2).2
    exact ⟨by simp [Predicate.map, Predicate.mapExprs, hinner], (List.cons.inj hrest).2⟩

section Unique

set_option linter.unusedSectionVars false

variable (haliases : ∀ t ∈ tables, ∀ t' ∈ tables, t.aliasName = t'.aliasName → t = t')

include haliases

mutual

/-- An expression is read in one way only, whatever follows it. -/
theorem Expr.eq_of_render_append : ∀ e : Expr, e.IsElementary tables →
    ∀ {e' : Expr}, e'.IsElementary tables → ∀ {r r' : Fragment},
      e.render d true ++ r = e'.render d true ++ r' → e.stripped = e'.stripped ∧ r = r'
  | .column c => fun he e' he' r r' h => by
    obtain ⟨c', rfl, href, rfl⟩ := Expr.of_render_reference he' h
    exact ⟨congrArg Expr.column (Column.stripped_eq haliases he he' href), rfl⟩
  | .value type v => fun _ e' he' r r' h => by
    obtain ⟨rfl, rfl⟩ := Expr.of_render_placeholder he' h
    exact ⟨rfl, rfl⟩
  | .slot index type => fun _ e' he' r r' h => by
    obtain ⟨rfl, rfl⟩ := Expr.of_render_placeholder he' h
    exact ⟨rfl, rfl⟩
  | .call function args => fun he e' he' r r' h => by
    rw [Expr.render_call_append he.1.2] at h
    obtain ⟨function', args', rfl, hname, hcall⟩ := Expr.of_render_function he' he.1.1 h
    -- an asterisk or `DISTINCT` belongs to the function, not to its arguments
    obtain ⟨hmarker, hargs⟩ := SqlFunction.marker_append_inj
      (fun s hs => Expr.args_append_ne_marker he.2 r hs)
      (fun s hs => Expr.args_append_ne_marker he'.2 r' hs) (List.cons.inj hcall).2
    obtain ⟨hstripped, hrest⟩ := Expr.eq_of_args_append args he.2 he'.2 hargs
    have hfunction := SqlFunction.eq_of_functionName_eq he.1.1 he'.1.1 hname hmarker
    exact ⟨by rw [Expr.stripped, Expr.stripped, hfunction, hstripped], hrest⟩
  | .arithmetic op left right => fun he e' he' r r' h => by
    rw [Expr.render_arithmetic_append] at h
    obtain ⟨op', left', right', rfl, hoperands⟩ := Expr.of_render_parenthesis he' h
    obtain ⟨hleft, hafterLeft⟩ := Expr.eq_of_render_append left he.1 he'.1 hoperands
    obtain ⟨hsymbol, hafterOp⟩ := List.cons.inj hafterLeft
    obtain ⟨hright, hrest⟩ := Expr.eq_of_render_append right he.2 he'.2 hafterOp
    have hop := ArithmeticOp.symbol_injective (Piece.text.inj hsymbol)
    exact ⟨by rw [Expr.stripped, Expr.stripped, hop, hleft, hright], (List.cons.inj hrest).2⟩
  | .raw sql => fun he => he.elim

theorem Expr.eq_of_args_append : ∀ es : List Expr, Expr.AreElementary tables es →
    ∀ {es' : List Expr}, Expr.AreElementary tables es' → ∀ {r r' : Fragment},
      Fragment.commaSeparated (renderList d true es) ++ .text ")" :: r =
          Fragment.commaSeparated (renderList d true es') ++ .text ")" :: r' →
        Expr.strippedList es = Expr.strippedList es' ∧ r = r'
  | [] => fun _ es' hes' r r' h => by
    cases es' with
    | nil => exact ⟨rfl, (List.cons.inj h).2⟩
    | cons e' es' => exact absurd h.symm (Expr.args_append_ne_close hes'.1 es' _ _)
  | e :: es => fun hes es' hes' r r' h => by
    cases es' with
    | nil => exact absurd h (Expr.args_append_ne_close hes.1 es _ _)
    | cons e' es' =>
      rw [renderList, renderList, Fragment.commaSeparated_cons, Fragment.commaSeparated_cons,
        List.append_assoc, List.append_assoc] at h
      obtain ⟨hfirst, hmore⟩ := Expr.eq_of_render_append e hes.1 hes'.1 h
      obtain ⟨hothers, hrest⟩ := Expr.eq_of_moreArgs_append es hes.2 hes'.2 hmore
      exact ⟨by rw [Expr.strippedList, Expr.strippedList, hfirst, hothers], hrest⟩

theorem Expr.eq_of_moreArgs_append : ∀ es : List Expr, Expr.AreElementary tables es →
    ∀ {es' : List Expr}, Expr.AreElementary tables es' → ∀ {r r' : Fragment},
      Fragment.afterCommas (renderList d true es) ++ .text ")" :: r =
          Fragment.afterCommas (renderList d true es') ++ .text ")" :: r' →
        Expr.strippedList es = Expr.strippedList es' ∧ r = r'
  | [] => fun _ es' _ r r' h => by
    cases es' with
    | nil => exact ⟨rfl, (List.cons.inj h).2⟩
    | cons e' es' => exact absurd (Piece.text.inj (List.cons.inj h).1) (by decide)
  | e :: es => fun hes es' hes' r r' h => by
    cases es' with
    | nil => exact absurd (Piece.text.inj (List.cons.inj h).1) (by decide)
    | cons e' es' =>
      simp only [renderList, Fragment.afterCommas, List.flatMap_cons, List.cons_append,
        List.append_assoc] at h
      obtain ⟨hfirst, hmore⟩ := Expr.eq_of_render_append e hes.1 hes'.1 (List.cons.inj h).2
      obtain ⟨hothers, hrest⟩ := Expr.eq_of_moreArgs_append es hes.2 hes'.2 hmore
      exact ⟨by rw [Expr.strippedList, Expr.strippedList, hfirst, hothers], hrest⟩

end

/-- A condition is not read as an operand of arithmetic, whatever follows it. -/
theorem Condition.render_append_ne_operand (c : Condition) (h : c.IsElementary tables d) :
    ∀ {e : Expr}, e.IsElementary tables → ∀ (op : ArithmeticOp) (r r' : Fragment),
      c.render d true ++ r ≠ e.render d true ++ .text op.symbol :: r' := by
  -- both begin with parentheses to the same depth, down to an expression that is tested
  induction c using Condition.induction with
  | h p ih =>
    obtain ⟨hp, hexprs, hchildren⟩ := Condition.isElementary_of.1 h
    intro e he op r r' heq
    rcases hp.cases with ⟨e', t, htest⟩ | ⟨word, left, right, hword⟩ | ⟨inner, rfl⟩
    · have he' := hexprs e' (Predicate.mem_exprs_of_test? htest)
      rw [render_append_of_test? r hp htest] at heq
      obtain ⟨-, hrest⟩ := Expr.eq_of_render_append haliases e' he' he heq
      exact RowTest.symbol_ne_word op t (Piece.text.inj (List.cons.inj hrest).1).symm
    · obtain ⟨-, hleft, -⟩ := Predicate.mem_of_connective? hword
      rw [render_append_of_connective? r hword] at heq
      -- the parenthesis is that of an operation, whose left operand takes the place of the whole
      obtain ⟨op', left', right', rfl, hinner⟩ := Expr.of_render_parenthesis he heq
      exact ih left hleft (hchildren left hleft) he.1 op' _ _ hinner
    · rw [render_append_not r inner] at heq
      exact Expr.render_append_ne_symbol he (by decide) (by decide) _ _ heq.symm

/-- A test is neither read as two conditions with a connective nor as the opposite of one. -/
theorem Predicate.test_ne_of_test?_eq_none {p : Predicate Condition} {e : Expr}
    (he : e.IsElementary tables) (hp : (Condition.of p).IsElementary tables d)
    (hnone : p.test? = none) (f r : Fragment) :
    e.render d true ++ f ≠ (Condition.of p).render d true ++ r := by
  obtain ⟨hlevel, -, hchildren⟩ := Condition.isElementary_of.1 hp
  intro heq
  rcases hlevel.cases_of_test?_eq_none hnone with ⟨word, left, right, hword⟩ | ⟨inner, rfl⟩
  · obtain ⟨-, hleft, -⟩ := Predicate.mem_of_connective? hword
    rw [Condition.render_append_of_connective? r hword] at heq
    obtain ⟨op, left', right', rfl, hinner⟩ := Expr.of_render_parenthesis he heq.symm
    exact Condition.render_append_ne_operand haliases left (hchildren left hleft) he.1 op _ _ hinner
  · rw [Condition.render_append_not r inner] at heq
    exact Expr.render_append_ne_symbol he (by decide) (by decide) _ _ heq

/-- The expressions behind the word for a test are read in one way only. -/
theorem Predicate.eq_of_operands_append {p p' : Predicate Condition} {e e' : Expr} {t : RowTest}
    (htest : p.test? = some (e, t)) (htest' : p'.test? = some (e', t))
    (he : e.stripped = e'.stripped) (hp : ∀ e ∈ p.exprs, e.IsElementary tables)
    (hp' : ∀ e ∈ p'.exprs, e.IsElementary tables)
    (h : p.operands d ++ r = p'.operands d ++ r') :
    (p.map Condition.stripped).mapExprs Expr.stripped =
        (p'.map Condition.stripped).mapExprs Expr.stripped ∧ r = r' := by
  cases p with
  | compare op left right =>
    cases htest
    cases p' with
    | compare op' left' right' =>
      cases htest'
      obtain ⟨hright, hrest⟩ := Expr.eq_of_render_append haliases right
        (hp right (by simp [exprs])) (hp' right' (by simp [exprs])) h
      exact ⟨by simp [map, mapExprs, he, hright], hrest⟩
    | _ => cases htest'
  | between expr low high negated =>
    cases htest
    cases p' with
    | between expr' low' high' negated' =>
      cases htest'
      rw [operands, operands, List.append_assoc, List.append_assoc] at h
      obtain ⟨hlow, hafter⟩ := Expr.eq_of_render_append haliases low
        (hp low (by simp [exprs])) (hp' low' (by simp [exprs])) h
      obtain ⟨hhigh, hrest⟩ := Expr.eq_of_render_append haliases high
        (hp high (by simp [exprs])) (hp' high' (by simp [exprs])) (List.cons.inj hafter).2
      exact ⟨by simp [map, mapExprs, he, hlow, hhigh], hrest⟩
    | _ => cases htest'
  | inList expr items negated =>
    cases htest
    cases p' with
    | inList expr' items' negated' =>
      cases htest'
      simp only [operands, List.cons_append, List.append_assoc, List.nil_append] at h
      obtain ⟨hitems, hrest⟩ := Expr.eq_of_args_append haliases items
        ((Expr.areElementary_iff tables).2 fun e he => hp e (List.mem_cons_of_mem _ he))
        ((Expr.areElementary_iff tables).2 fun e he => hp' e (List.mem_cons_of_mem _ he))
        (List.cons.inj h).2
      rw [Expr.strippedList_eq_map, Expr.strippedList_eq_map] at hitems
      exact ⟨by simp [map, mapExprs, he, hitems], hrest⟩
    | _ => cases htest'
  | isNull expr negated =>
    cases htest
    cases p' with
    | isNull expr' negated' =>
      cases htest'
      exact ⟨by simp [map, mapExprs, he], h⟩
    | _ => cases htest'
  | like kind expr pattern =>
    cases htest
    cases p' with
    | like kind' expr' pattern' =>
      cases htest'
      obtain ⟨hpattern, hrest⟩ := Expr.eq_of_render_append haliases pattern
        (hp pattern (by simp [exprs])) (hp' pattern' (by simp [exprs])) h
      exact ⟨by simp [map, mapExprs, he, hpattern], hrest⟩
    | _ => cases htest'
  | _ => cases htest

/-- A condition is read in one way only, whatever follows it. -/
theorem Condition.eq_of_render_append (c : Condition) (h : c.IsElementary tables d) :
    ∀ {c' : Condition}, c'.IsElementary tables d → ∀ {r r' : Fragment},
      c.render d true ++ r = c'.render d true ++ r' → c.stripped = c'.stripped ∧ r = r' := by
  induction c using Condition.induction with
  | h p ih =>
    obtain ⟨hp, hexprs, hchildren⟩ := Condition.isElementary_of.1 h
    rintro ⟨p'⟩ h' r r' heq
    obtain ⟨hp', hexprs', hchildren'⟩ := Condition.isElementary_of.1 h'
    rw [stripped_of, stripped_of]
    -- a test begins with the expression it tests, and what follows tells the test
    cases htest : p.test? with
    | some et =>
      obtain ⟨e, t⟩ := et
      have he := hexprs e (Predicate.mem_exprs_of_test? htest)
      rw [render_append_of_test? r hp htest] at heq
      cases htest' : p'.test? with
      | some et' =>
        obtain ⟨e', t'⟩ := et'
        have he' := hexprs' e' (Predicate.mem_exprs_of_test? htest')
        rw [render_append_of_test? r' hp' htest'] at heq
        obtain ⟨hsubject, hafter⟩ := Expr.eq_of_render_append haliases e he he' heq
        obtain ⟨hword, hoperands⟩ := List.cons.inj hafter
        obtain rfl := RowTest.word_injective (Piece.text.inj hword)
        obtain ⟨hlevel, hrest⟩ := Predicate.eq_of_operands_append haliases htest htest' hsubject
          hexprs hexprs' hoperands
        exact ⟨congrArg Condition.of hlevel, hrest⟩
      | none => exact absurd heq (Predicate.test_ne_of_test?_eq_none haliases he h' htest' _ _)
    | none =>
      cases htest' : p'.test? with
      | some et' =>
        obtain ⟨e', t'⟩ := et'
        have he' := hexprs' e' (Predicate.mem_exprs_of_test? htest')
        rw [render_append_of_test? r' hp' htest'] at heq
        exact absurd heq.symm (Predicate.test_ne_of_test?_eq_none haliases he' h htest _ _)
      | none =>
        obtain ⟨hlevel, hrest⟩ := Predicate.eq_of_connectives_append hp hp' htest htest'
          (fun c hc c' hc' => ih c hc (hchildren c hc) (hchildren' c' hc')) heq
        exact ⟨congrArg Condition.of hlevel, hrest⟩

end Unique

end ReadingExpressions

/-- Conditions are read in one way. In either dialect and with columns behind the aliases of their
tables, which differ, two elementary conditions with one text and one list of bindings are the same
tree; only the quoting and the declared types of their columns can be different. -/
theorem bound_conditions_read_uniquely (d : Dialect) {tables : List Table}
    (haliases : (tables.map Table.aliasName).Nodup) {c c' : Condition}
    (hc : c.IsElementary tables d) (hc' : c'.IsElementary tables d)
    (hsql : ((c.write d true).bound d).sql = ((c'.write d true).bound d).sql)
    (hbindings : ((c.write d true).bound d).bindings = ((c'.write d true).bound d).bindings) :
    c.stripped = c'.stripped := by
  rw [Condition.write_eq, Condition.write_eq, Fragment.bound_sql, Fragment.bound_sql] at hsql
  rw [Condition.write_eq, Condition.write_eq, Fragment.bound_bindings, Fragment.bound_bindings]
    at hbindings
  have hlexed (c : Condition) (hc : c.IsElementary tables d) : (c.render d true).IsLexed d := by
    have hnil := c.isLexed_append hc Fragment.followsName_nil Fragment.IsLexed.nil
    rwa [List.append_nil] at hnil
  have hpieces := (hlexed c hc).eq_of_boundSqlFrom_eq (hlexed c' hc') hsql hbindings
  have hinjective : ∀ t ∈ tables, ∀ t' ∈ tables, t.aliasName = t'.aliasName → t = t' :=
    fun t ht t' ht' => List.inj_on_of_nodup_map haliases ht ht'
  exact (c.eq_of_render_append hinjective hc hc' (congrArg (· ++ []) hpieces)).1

/-- A table whose alias is `_7`. -/
def invoiceTable : Table := { schema? := none, name := "Invoice", enclosed := false, id := ⟨0, 7⟩ }

/-- A range of sums or else no total below a slot, over a column that is quoted on demand or because
of its capital letter. -/
def totalsCondition (enclosed : Bool) (type : SqlType) : Condition :=
  let total : Expr := .column { table := invoiceTable, name := "Total", enclosed, type }
  .or (.of (.between (.arithmetic .add total (.value .int (.int 1))) (.slot 0 .int)
      (.call .countAll []) false))
    (.not (.of (.compare .lt total (.slot 0 .int))))

theorem isElementary_totalsCondition (enclosed : Bool) (type : SqlType) :
    (totalsCondition enclosed type).IsElementary [invoiceTable] .postgres := by
  simp [totalsCondition, Condition.or, Condition.not, Condition.isElementary_of,
    Predicate.IsElementary, Predicate.exprs, Predicate.children, Expr.IsElementary,
    Expr.AreElementary, SqlFunction.known]

/-- The text tells the two conditions neither by the quoting nor by the type of the column, and it
tells nothing else of them apart. -/
theorem totalsCondition_read_uniquely :
    (∀ enclosed type, (totalsCondition enclosed type).IsElementary [invoiceTable] .postgres) ∧
      (((totalsCondition false .int).write .postgres true).bound .postgres).sql =
        "((_7.\"Total\"+$1) BETWEEN $2 AND COUNT(*)) OR (NOT (_7.\"Total\"<$3))" ∧
      (((totalsCondition true .text).write .postgres true).bound .postgres).sql =
        "((_7.\"Total\"+$1) BETWEEN $2 AND COUNT(*)) OR (NOT (_7.\"Total\"<$3))" ∧
      totalsCondition false .int ≠ totalsCondition true .text ∧
      (totalsCondition false .int).stripped = (totalsCondition true .text).stripped := by
  have hsql : (((totalsCondition false .int).write .postgres true).bound .postgres).sql =
      "((_7.\"Total\"+$1) BETWEEN $2 AND COUNT(*)) OR (NOT (_7.\"Total\"<$3))" := by
    decide +kernel
  have hsql' : (((totalsCondition true .text).write .postgres true).bound .postgres).sql =
      "((_7.\"Total\"+$1) BETWEEN $2 AND COUNT(*)) OR (NOT (_7.\"Total\"<$3))" := by
    decide +kernel
  refine ⟨isElementary_totalsCondition, hsql, hsql', ?_, ?_⟩
  · simp [totalsCondition, Condition.or, Condition.not]
  · refine bound_conditions_read_uniquely .postgres (by decide)
      (isElementary_totalsCondition false .int) (isElementary_totalsCondition true .text)
      (hsql.trans hsql'.symm) ?_
    decide +kernel

end TypedSql
