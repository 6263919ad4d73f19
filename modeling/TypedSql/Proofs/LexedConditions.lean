import TypedSql.Proofs.Elementary
/-!
# The lexemes of elementary conditions

The pieces that an elementary condition is rendered to can be told apart in its text. What comes
after a column is an operator, a keyword behind a space, a comma or a parenthesis, and what comes
after `<` and `>` is an expression.

## Main statements

- `Expr.isLexed_append`, `Condition.isLexed_append`: the pieces, in front of others that can be told
  apart.

## Design notes

The lemmas speak of what a fragment stands in front of, so that they compose from right to left, as
the conditions on what may follow a piece need it.
-/

namespace TypedSql

section Lexing

variable {tables : List Table} (d : Dialect) {rest : Fragment}

theorem Fragment.IsLexed.symbol {s : String} (hrest : rest.IsLexed d)
    (hs : s ∈ symbols := by decide) (hs' : s ∉ ["<", ">"] := by decide) :
    Fragment.IsLexed d (.text s :: rest) :=
  hrest.word (List.mem_append_left _ hs) hs'

theorem Fragment.followsName_close : FollowsName d (.text ")" :: rest) :=
  followsName_text (by decide) rest

theorem Fragment.followsName_afterCommas (fs : List Fragment) :
    FollowsName d (afterCommas fs ++ .text ")" :: rest) := by
  cases fs with
  | nil => exact followsName_close d
  | cons f fs => exact followsName_text (by decide) _

theorem SqlFunction.isLexed_marker (function : SqlFunction) (hrest : rest.IsLexed d) :
    Fragment.IsLexed d (function.marker ++ rest) := by
  cases function with
  | countAll => exact hrest.symbol d
  | countDistinct => exact hrest.symbol d
  | _ => exact hrest

mutual

/-- The pieces of an expression can be told apart. -/
theorem Expr.isLexed_append : ∀ e : Expr, e.IsElementary tables → ∀ {rest : Fragment},
    rest.FollowsName d → rest.IsLexed d → Fragment.IsLexed d (e.render d true ++ rest)
  | .column c => fun _ _ hname hrest => .cons (fun position => .reference c (hname position)) hrest
  | .value type v => fun _ _ _ hrest => .cons (fun _ => .placeholder _) hrest
  | .slot index type => fun _ _ _ hrest => .cons (fun _ => .placeholder _) hrest
  | .call function args => fun h rest _ hrest => by
    obtain ⟨⟨hknown, hcount⟩, hargs⟩ := h
    have hlist := function.isLexed_marker d (Expr.isLexed_args args hargs hrest)
    have hcomparison : ∀ s ∈ ["<", ">"], s ∈ symbols := by decide
    rw [Expr.render_call_append hcount]
    exact (hlist.symbol d).word (d.functionName_mem_words hknown) fun hname =>
      Dialect.functionName_not_mem_symbols hknown (hcomparison _ hname)
  | .arithmetic op left right => fun h rest _ hrest => by
    have hop : op.symbol ∈ symbols ∧ op.symbol ∉ ["<", ">"] := by cases op <;> decide
    have hhead : op.symbol.toList.head?.any literalFollowers.contains := by cases op <;> decide
    have hright := Expr.isLexed_append right h.2 (Fragment.followsName_close d) (hrest.symbol d)
    have hleft := Expr.isLexed_append left h.1 (Fragment.followsName_text hhead _)
      (hright.symbol d hop.1 hop.2)
    rw [Expr.render_arithmetic_append]
    exact hleft.symbol d
  | .raw sql => fun h => h.elim

theorem Expr.isLexed_args : ∀ es : List Expr, Expr.AreElementary tables es → ∀ {rest : Fragment},
    rest.IsLexed d →
    Fragment.IsLexed d (Fragment.commaSeparated (renderList d true es) ++ .text ")" :: rest)
  | [] => fun _ _ hrest => hrest.symbol d
  | e :: es => fun h rest hrest => by
    rw [renderList, Fragment.commaSeparated_cons, List.append_assoc]
    exact Expr.isLexed_append e h.1 (Fragment.followsName_afterCommas d _)
      (Expr.isLexed_moreArgs es h.2 hrest)

theorem Expr.isLexed_moreArgs : ∀ es : List Expr, Expr.AreElementary tables es →
    ∀ {rest : Fragment}, rest.IsLexed d →
    Fragment.IsLexed d (Fragment.afterCommas (renderList d true es) ++ .text ")" :: rest)
  | [] => fun _ _ hrest => hrest.symbol d
  | e :: es => fun h rest hrest => by
    have hitem := Expr.isLexed_append e h.1 (Fragment.followsName_afterCommas d _)
      (Expr.isLexed_moreArgs es h.2 hrest)
    rw [renderList]
    simp only [Fragment.afterCommas, List.flatMap_cons, List.cons_append, List.append_assoc]
      at hitem ⊢
    exact hitem.symbol d

end

end Lexing

section LexingConditions

variable {tables : List Table} {d : Dialect} {rest : Fragment}

/-- A comparison does not go on with the first character of the expression behind it. -/
theorem Expr.isLexed_comparison_append (op : Comparison) {e : Expr} (he : e.IsElementary tables)
    (hname : rest.FollowsName d) (hrest : rest.IsLexed d) :
    Fragment.IsLexed d (.text op.symbol :: (e.render d true ++ rest)) := by
  refine (e.isLexed_append d he hname hrest).comparison op ?_
  intro position c hc
  obtain ⟨p, f, hf, hbegins⟩ := Expr.exists_cons_render (d := d) he
  obtain ⟨first, cs, hcs, hfirst⟩ := hbegins.exists_cons_spelling d.placeholderStyle position
  rw [hf, List.cons_append, Fragment.toList_boundSqlFrom_cons, hcs] at hc
  rw [← Option.some.inj hc]
  exact hfirst

/-- A test can be told from the expression in front of it, and its pieces from each other. -/
theorem Predicate.isLexed_test_append {γ : Type} {p : Predicate γ} {e : Expr} {t : RowTest}
    (hexprs : ∀ e ∈ p.exprs, e.IsElementary tables) (htest : p.test? = some (e, t))
    (hname : rest.FollowsName d) (hrest : rest.IsLexed d) :
    Fragment.IsLexed d (.text t.word :: (p.operands d ++ rest)) := by
  cases p with
  | compare op left right =>
    cases htest
    exact right.isLexed_comparison_append op (hexprs right (by simp [exprs])) hname hrest
  | between expr low high negated =>
    cases htest
    have hhigh := high.isLexed_append d (hexprs high (by simp [exprs])) hname hrest
    have hlow := low.isLexed_append d (hexprs low (by simp [exprs]))
      (Fragment.followsName_text (s := " AND ") (by decide) _) (hhigh.symbol d)
    rw [operands, List.append_assoc]
    cases negated <;> exact hlow.symbol d
  | inList expr items negated =>
    cases htest
    have hitems := Expr.isLexed_args d items
      ((Expr.areElementary_iff tables).2 fun e he => hexprs e (List.mem_cons_of_mem _ he)) hrest
    rw [operands, List.cons_append, List.append_assoc]
    cases negated <;> exact (hitems.symbol d).symbol d
  | isNull expr negated =>
    cases htest
    cases negated <;> exact hrest.symbol d
  | like kind expr pattern =>
    cases htest
    obtain ⟨ignoresCase, negated⟩ := kind
    have hpattern := pattern.isLexed_append d (hexprs pattern (by simp [exprs])) hname hrest
    cases ignoresCase <;> cases negated <;> exact hpattern.symbol d
  | _ => cases htest

/-- The pieces of a condition can be told apart. -/
theorem Condition.isLexed_append (c : Condition) (h : c.IsElementary tables d) :
    ∀ {rest : Fragment}, rest.FollowsName d → rest.IsLexed d →
      Fragment.IsLexed d (c.render d true ++ rest) := by
  induction c using Condition.induction with
  | h p ih =>
    obtain ⟨hp, hexprs, hchildren⟩ := Condition.isElementary_of.1 h
    intro rest hname hrest
    have hchild (c : Condition) (hc : c ∈ p.children) {rest : Fragment} (hrest : rest.IsLexed d) :
        Fragment.IsLexed d (.text "(" :: (c.render d true ++ .text ")" :: rest)) :=
      (ih c hc (hchildren c hc) (Fragment.followsName_close d) (hrest.symbol d)).symbol d
    rcases hp.cases with ⟨e, t, htest⟩ | ⟨word, left, right, hword⟩ | ⟨inner, rfl⟩
    · have he := hexprs e (Predicate.mem_exprs_of_test? htest)
      rw [render_append_of_test? rest hp htest]
      exact e.isLexed_append d he (Fragment.followsName_text t.head?_word _)
        (Predicate.isLexed_test_append hexprs htest hname hrest)
    · obtain ⟨hmem, hleft, hright⟩ := Predicate.mem_of_connective? hword
      have hsymbol : ∀ word ∈ [" AND ", " OR "], word ∈ symbols ∧ word ∉ ["<", ">"] := by decide
      obtain ⟨hsymbol, hne⟩ := hsymbol word hmem
      rw [render_append_of_connective? rest hword]
      exact hchild left hleft ((hchild right hright hrest).symbol d hsymbol hne)
    · rw [render_append_not rest inner]
      exact (hchild inner (by simp [Predicate.children]) hrest).symbol d

end LexingConditions

end TypedSql
