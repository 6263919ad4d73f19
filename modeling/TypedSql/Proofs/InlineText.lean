import TypedSql.Proofs.Fragment
import TypedSql.Proofs.Lexical
import TypedSql.Proofs.Traversal
import TypedSql.Statement.Render
/-!
# The text of statements with literals

Where values are written as literals, the fragments of expressions, conditions and statements have
the lexical structure of `Lexical`, if no text is taken over as it is and the functions are called
by plain names. A negative number is subtracted in the text if and only if an expression of the
template subtracts one.

## Main definitions

- `Expr.isPlain`: whether nothing in an expression is taken over as it is.
- `Expr.subtractsNegative`: whether an expression subtracts a negative number.
- `Fragment.Reads`: the text of a fragment has lexical structure.

## Main statements

- `Expr.reads`, `Condition.reads`, `StatementOf.reads`: templates have lexical structure.
-/

namespace TypedSql

section Expressions

/-- Whether the name of a function is a plain word; only that of a function without a builder may
not be. -/
def SqlFunction.isPlain : SqlFunction → Bool
  | custom name => isPlainIdentifier name
  | _ => true

/-- Whether an expression is a negative number. -/
def Expr.isNegativeValue : Expr → Bool
  | .value _ v => v.isNegative
  | _ => false

mutual

/-- Whether nothing in an expression is taken over as it is. -/
def Expr.isPlain : Expr → Bool
  | .column _ => true
  | .value _ _ => true
  | .slot _ _ => true
  | .call function args => function.isPlain && Expr.arePlain args
  | .arithmetic _ left right => left.isPlain && right.isPlain
  | .raw _ => false

/-- Whether nothing in a list of expressions is taken over as it is. -/
def Expr.arePlain : List Expr → Bool
  | [] => true
  | e :: rest => e.isPlain && Expr.arePlain rest

end

mutual

/-- Whether a negative number is subtracted in an expression. The arguments of counting all rows are
not written. -/
def Expr.subtractsNegative : Expr → Bool
  | .column _ => false
  | .value _ _ => false
  | .slot _ _ => false
  | .call .countAll _ => false
  | .call _ args => Expr.someSubtractsNegative args
  | .arithmetic op left right =>
    left.subtractsNegative || right.subtractsNegative || (op == .sub && right.isNegativeValue)
  | .raw _ => false

/-- Whether a negative number is subtracted in one of the expressions. -/
def Expr.someSubtractsNegative : List Expr → Bool
  | [] => false
  | e :: rest => e.subtractsNegative || Expr.someSubtractsNegative rest

end

theorem Expr.someSubtractsNegative_eq_any (es : List Expr) :
    Expr.someSubtractsNegative es = es.any Expr.subtractsNegative := by
  induction es with
  | nil => rfl
  | cons e es ih => simp [someSubtractsNegative, ih]

end Expressions

namespace Fragment

/-- The text of a fragment with its values as literals has lexical structure. -/
def Reads (d : Dialect) (e e' : Edge) (b : Bool) (f : Fragment) : Prop :=
  Lexical d e e' b (f.inlineSql d).toList

variable {d : Dialect} {e e' e₁ e₂ e₃ : Edge} {b b' : Bool} {f g : Fragment}

theorem reads_ofText {s : String} : (ofText s).Reads d e e' b ↔ Lexical d e e' b s.toList := by
  rw [Reads, inlineSql_ofText]

theorem reads_word {s : String} (h : isWord s) : (ofText s).Reads d .complete .ordinary false :=
  reads_ofText.2 (.word h)

theorem reads_nil (e : Edge) : Reads d e e false [] := .empty e

namespace Reads

theorem of_eq (h : f.Reads d e e' b) (hb : b = b') : f.Reads d e e' b' := hb ▸ h

theorem append (h : f.Reads d e₁ e₂ b) (h' : g.Reads d e₂ e₃ b') :
    (f ++ g).Reads d e₁ e₃ (b || b') := by
  rw [Reads, inlineSql_append, String.toList_append]
  exact Lexical.append h h'

theorem parenthesised (h : f.Reads d .ordinary .complete b) :
    f.parenthesised.Reads d .complete .ordinary b := by
  simpa [Reads, Fragment.parenthesised] using Lexical.parenthesised h

theorem strengthenBefore (h : f.Reads d .complete e b) : f.Reads d .ordinary e b :=
  Lexical.strengthenBefore h

theorem weakenAfter (h : f.Reads d e .ordinary b) : f.Reads d e .complete b :=
  Lexical.weakenAfter h

/-- A word and then an operand in parentheses. -/
theorem call {s : String} (hword : isWord s) (h : f.Reads d .ordinary .complete b) :
    (ofText s ++ f.parenthesised).Reads d .complete .ordinary b :=
  ((reads_word hword).append h.parenthesised.strengthenBefore).of_eq (Bool.false_or b)

/-- A word and then an operand. -/
theorem wordThen {s : String} (hword : isWord s) (h : f.Reads d .ordinary e b) :
    (ofText s ++ f).Reads d .complete e b :=
  ((reads_word hword).append h).of_eq (Bool.false_or b)

/-- An operand and then a word. -/
theorem thenWord {s : String} (h : f.Reads d e .complete b) (hword : isWord s) :
    (f ++ ofText s).Reads d e .ordinary b :=
  (h.append (reads_word hword)).of_eq (Bool.or_false b)

end Reads

section Lists

variable {α : Type} {f : α → Fragment} {bad : α → Bool} {as : List α}

theorem reads_commaSeparated (h : ∀ a ∈ as, (f a).Reads d .ordinary .complete (bad a)) :
    (commaSeparated (as.map f)).Reads d .ordinary .complete (as.any bad) := by
  cases as with
  | nil => exact (reads_nil .ordinary).weakenAfter
  | cons first rest =>
    induction rest generalizing first with
    | nil => simpa using h first List.mem_cons_self
    | cons next rest ih =>
      have hfirst := h first List.mem_cons_self
      have hrest := ih next fun a ha => h a (List.mem_cons_of_mem _ ha)
      simp only [List.map_cons, commaSeparated_cons_cons]
      exact (hfirst.thenWord (s := ",") (by decide)).append hrest

theorem reads_flatMap (h : ∀ a ∈ as, (f a).Reads d .complete .complete (bad a)) :
    Reads d .complete .complete (as.any bad) (as.flatMap f) := by
  induction as with
  | nil => exact reads_nil .complete
  | cons a rest ih =>
    rw [List.forall_mem_cons] at h
    exact h.1.append (ih h.2)

theorem reads_listAfter {opening : String} (hopening : isWord opening)
    (h : ∀ a ∈ as, (f a).Reads d .ordinary .complete (bad a)) :
    (listAfter opening (as.map f)).Reads d .complete .complete (as.any bad) := by
  cases as with
  | nil => exact reads_nil .complete
  | cons first rest => exact .wordThen hopening (reads_commaSeparated h)

end Lists

end Fragment

section Expressions

variable (d : Dialect) (qualified : Bool)

theorem SqlFunction.isWord_functionName {function : SqlFunction} (h : function.isPlain) :
    isWord (d.functionName function) := by
  cases function with
  | custom name => exact isWord_of_isPlainIdentifier h
  | _ => cases d <;> decide

theorem SqlFunction.beginsOperand_functionName {function : SqlFunction} (h : function.isPlain) :
    beginsOperand (d.functionName function) := by
  cases function with
  | custom name => exact beginsOperand_of_isPlainIdentifier h
  | _ => cases d <;> decide

/-- A call reads as its arguments do. -/
theorem SqlFunction.reads_renderCall {function : SqlFunction} (h : function.isPlain) {b : Bool}
    {args : List Fragment} (hargs : (Fragment.commaSeparated args).Reads d .ordinary .complete b) :
    (function.renderCall d args).Reads d .complete .ordinary (function != .countAll && b) := by
  have hname := isWord_functionName d h
  cases function with
  | countAll =>
    have hstar := Fragment.reads_word (d := d) (s := "*") (by decide)
    exact .call (s := "COUNT") (by decide) hstar.weakenAfter.strengthenBefore
  | countDistinct =>
    exact .call hname (hargs.wordThen (s := "DISTINCT ") (by decide)).strengthenBefore
  | _ => exact .call hname hargs

/-- An expression that is no negative number begins as operands do. -/
theorem Expr.beginsOperand_inlineSql {e : Expr} (h : e.isPlain)
    (hvalue : e.isNegativeValue = false) : beginsOperand ((e.render d qualified).inlineSql d) := by
  cases e with
  | column c => simpa [render] using d.beginsOperand_columnReference qualified c
  | value type v =>
    simpa [render, Fragment.inlineSql, Binding.inlineText] using d.beginsOperand_literal hvalue
  | slot index type => simp [render, Fragment.inlineSql, Binding.inlineText, beginsOperand]
  | call function args =>
    simp only [isPlain, Bool.and_eq_true] at h
    have hname := SqlFunction.beginsOperand_functionName d h.1
    cases function with
    | countAll =>
      simpa only [render, SqlFunction.renderCall, Fragment.inlineSql_append,
        Fragment.inlineSql_ofText] using beginsOperand_append (s := "COUNT") (by decide) _
    | _ =>
      simpa only [render, SqlFunction.renderCall, Fragment.inlineSql_append,
        Fragment.inlineSql_ofText] using beginsOperand_append hname _
  | arithmetic op left right => simp [render, Fragment.parenthesised, beginsOperand]
  | raw sql => cases h

theorem Expr.head?_inlineSql {e : Expr} (h : e.isNegativeValue) :
    ((e.render d qualified).inlineSql d).toList.head? = some '-' := by
  cases e with
  | value type v =>
    simpa [render, Fragment.inlineSql, Binding.inlineText] using d.head?_literal h
  | _ => cases h

/-- An operation reads as its operands do, and in it a negative number is subtracted if it is the
right operand of a subtraction. -/
theorem Expr.reads_arithmetic (op : ArithmeticOp) {left right : Expr} {b b' : Bool}
    (hplain : right.isPlain) (hleft : (left.render d qualified).Reads d .ordinary .complete b)
    (hright : (right.render d qualified).Reads d .ordinary .complete b') :
    ((Expr.arithmetic op left right).render d qualified).Reads d .complete .ordinary
      (b || b' || (op == .sub && right.isNegativeValue)) := by
  -- of all operands, only negative numbers begin with a sign
  have hminus : (((right.render d qualified).inlineSql d).toList.head? == some '-') =
      right.isNegativeValue := by
    cases hnegative : right.isNegativeValue with
    | true => simp [head?_inlineSql d qualified hnegative]
    | false =>
      have hbegins := beginsOperand_inlineSql d qualified hplain hnegative
      simpa using head?_ne_of_beginsOperand hbegins (.inl rfl)
  have hstar : ((right.render d qualified).inlineSql d).toList.head? ≠ some '*' := by
    cases hnegative : right.isNegativeValue with
    | true => simp [head?_inlineSql d qualified hnegative]
    | false =>
      have hbegins := beginsOperand_inlineSql d qualified hplain hnegative
      exact head?_ne_of_beginsOperand hbegins (.inr rfl)
  have harithmetic := Lexical.arithmetic op hleft hright hstar
  rw [hminus] at harithmetic
  simpa [Fragment.Reads, render, Fragment.parenthesised] using harithmetic

mutual

/-- A plain expression is an operand. -/
theorem Expr.reads : ∀ e : Expr, e.isPlain →
    (e.render d qualified).Reads d .ordinary .complete e.subtractsNegative
  | .column c, _ => Fragment.reads_ofText.2 (d.lexical_columnReference qualified c)
  | .value type v, _ => by
    simpa [Fragment.Reads, render, Fragment.inlineSql, Binding.inlineText, subtractsNegative] using
      d.lexical_literal v
  | .slot index type, _ => by
    have hslot : Lexical d .ordinary .complete false "?".toList := .wordOperand (by decide)
    simpa [Fragment.Reads, render, Fragment.inlineSql, Binding.inlineText, subtractsNegative] using
      hslot
  | .call function args, h => by
    simp only [isPlain, Bool.and_eq_true] at h
    have hargs := Fragment.reads_commaSeparated (Expr.readsList args h.2)
    rw [render, renderList_eq_map]
    refine ((SqlFunction.reads_renderCall d h.1 hargs).weakenAfter.strengthenBefore).of_eq ?_
    cases function <;> simp [subtractsNegative, someSubtractsNegative_eq_any]
  | .arithmetic op left right, h => by
    simp only [isPlain, Bool.and_eq_true] at h
    exact (Expr.reads_arithmetic d qualified op h.2 (Expr.reads left h.1)
      (Expr.reads right h.2)).weakenAfter.strengthenBefore
  | .raw sql, h => nomatch h

theorem Expr.readsList : ∀ es : List Expr, Expr.arePlain es → ∀ e ∈ es,
    (e.render d qualified).Reads d .ordinary .complete e.subtractsNegative
  | [], _ => List.forall_mem_nil _
  | e :: rest, h => by
    simp only [arePlain, Bool.and_eq_true] at h
    exact List.forall_mem_cons.2 ⟨Expr.reads e h.1, Expr.readsList rest h.2⟩

end

end Expressions

section Words

variable {γ : Type} (d : Dialect) (qualified : Bool)

theorem lexical_commaJoined {texts : List String}
    (h : ∀ t ∈ texts, Lexical d .ordinary .complete false t.toList) :
    Lexical d .ordinary .complete false (commaJoined texts).toList := by
  cases texts with
  | nil => exact .weakenAfter (.empty .ordinary)
  | cons first rest =>
    induction rest generalizing first with
    | nil => simpa [commaJoined] using h first List.mem_cons_self
    | cons next rest ih =>
      have hfirst := h first List.mem_cons_self
      have hrest := ih next fun t ht => h t (List.mem_cons_of_mem _ ht)
      rw [commaJoined, String.intercalate_cons_cons, String.toList_append, String.toList_append]
      exact (hfirst.thenWord (s := ",") (by decide)).append hrest

/-- A word and a list of words in parentheses. -/
theorem lexical_list {s : String} (hs : isWord s) {texts : List String}
    (h : ∀ t ∈ texts, Lexical d .ordinary .complete false t.toList) :
    Lexical d .complete .ordinary false (s ++ "(" ++ commaJoined texts ++ ")").toList := by
  have hlist := (Lexical.parenthesised (lexical_commaJoined d h)).strengthenBefore.wordThen hs
  simpa using hlist

theorem SelectBody.isWord_opening (b : SelectBody γ) : isWord (b.opening d) := by
  have hselect : isWord ("SELECT " ++ if b.distinct then "DISTINCT " else "") := by
    cases b.distinct <;> decide
  have htop (n : Nat) : isWord ("TOP " ++ toString n ++ " ") :=
    isWord_append (isWord_append (by decide) (isWord_toString n)) (by decide)
  cases d with
  | sqlServer =>
    cases hn : b.top? with
    | none => simpa [opening, hn] using hselect
    | some n => simpa [opening, hn, String.append_assoc] using isWord_append hselect (htop n)
  | postgres => simpa [opening] using hselect

theorem SelectBody.lexical_sourceClause (b : SelectBody γ) :
    Lexical d .complete .complete false (b.sourceClause d qualified).toList := by
  unfold sourceClause
  cases b.source? with
  | none => exact .empty .complete
  | some table =>
    have hfrom := (d.lexical_tableReference qualified table).wordThen (s := " FROM ") (by decide)
    have hhints : Lexical d .complete .ordinary false
        (" WITH(" ++ commaJoined (b.hints.map TableHint.sql) ++ ")").toList := by
      refine lexical_list d (s := " WITH") (by decide) fun t ht => ?_
      obtain ⟨hint, -, rfl⟩ := List.mem_map.1 ht
      cases hint <;> exact .wordOperand (by decide)
    by_cases h : d = .sqlServer ∧ b.hints ≠ []
    · simpa [if_pos h] using hfrom.append hhints.weakenAfter
    · simpa [if_neg h] using hfrom

theorem lexical_tableReferences (tables : List Table) :
    Lexical d .ordinary .complete false
      (commaJoined (tables.map (d.tableReference qualified))).toList := by
  refine lexical_commaJoined d fun t ht => ?_
  obtain ⟨table, -, rfl⟩ := List.mem_map.1 ht
  exact d.lexical_tableReference qualified table

theorem RowLock.lexical_clause (lock : RowLock) :
    Lexical .postgres .complete .complete false (lock.clause qualified).toList := by
  have htables : Lexical .postgres .ordinary .complete false
      (if lock.tables.isEmpty then "" else " OF " ++ commaJoined (lock.tables.map fun t =>
        if qualified then t.aliasName
        else Dialect.postgres.identifier t.name t.enclosed)).toList := by
    by_cases hempty : lock.tables.isEmpty
    · rw [if_pos hempty]
      exact .weakenAfter (.empty .ordinary)
    · rw [if_neg hempty, String.toList_append]
      refine (Lexical.wordThen (s := " OF ") (by decide) ?_).strengthenBefore
      refine lexical_commaJoined _ fun t ht => ?_
      obtain ⟨table, -, rfl⟩ := List.mem_map.1 ht
      cases qualified with
      | true => exact .wordOperand table.isWord_aliasName
      | false => exact Dialect.postgres.lexical_identifier table.name table.enclosed
  rw [clause, String.toList_append, String.toList_append]
  refine Lexical.append (htables.wordThen ?strength) ?wait
  case strength => cases lock.strength <;> decide
  case wait =>
    cases lock.wait with
    | wait => exact .empty .complete
    | noWait => exact .weakenAfter (.word (s := " NOWAIT") (by decide))
    | skipLocked => exact .weakenAfter (.word (s := " SKIP LOCKED") (by decide))

theorem SelectOf.lexical_closing (s : SelectOf γ) :
    Lexical d .complete .complete false (s.closing d qualified).toList := by
  cases d with
  | sqlServer =>
    unfold closing
    by_cases hempty : s.options.isEmpty
    · simpa [hempty] using Lexical.empty .complete
    · have hoptions : Lexical .sqlServer .complete .ordinary false
          (" OPTION(" ++ commaJoined (s.options.map QueryOption.sql) ++ ")").toList := by
        refine lexical_list _ (s := " OPTION") (by decide) fun t ht => ?_
        obtain ⟨option, -, rfl⟩ := List.mem_map.1 ht
        cases option with
        | recompile => exact .wordOperand (by decide)
        | optimizeForUnknown => exact .wordOperand (by decide)
        | maxDop n => exact .wordOperand (isWord_append (by decide) (isWord_toString n))
        | fast n => exact .wordOperand (isWord_append (by decide) (isWord_toString n))
      simpa [hempty] using hoptions.weakenAfter
  | postgres =>
    have hlock : Lexical .postgres .complete .complete false
        ((s.lock?.map (RowLock.clause qualified)).getD "").toList := by
      cases s.lock? with
      | none => exact .empty .complete
      | some lock => exact lock.lexical_clause qualified
    rw [closing, String.toList_append]
    refine Lexical.append (?limit : Lexical .postgres .complete .complete false _) hlock
    case limit =>
      cases s.unions with
      | nil =>
        cases s.head.top? with
        | none => exact .empty .complete
        | some n => exact .weakenAfter (.word (isWord_append (by decide) (isWord_toString n)))
      | cons union rest => exact .empty .complete

theorem InsertTemplate.lexical_target (s : InsertTemplate) :
    Lexical d .complete .ordinary false (s.target d).toList := by
  have htable := (d.lexical_tableName s.table).wordThen (s := "INSERT INTO ") (by decide)
  have hcolumns : Lexical d .ordinary .complete false
      (commaJoined (s.assignments.map fun a =>
        d.identifier a.column.name a.column.enclosed)).toList := by
    refine lexical_commaJoined d fun t ht => ?_
    obtain ⟨a, -, rfl⟩ := List.mem_map.1 ht
    exact d.lexical_identifier _ _
  simpa [target] using htable.append hcolumns.parenthesised

theorem UpdateOf.lexical_target (s : UpdateOf γ) :
    Lexical d .complete .complete false (s.target d qualified).toList := by
  have hupdate : isWord "UPDATE " := by decide
  cases d with
  | sqlServer =>
    cases qualified with
    | true => exact .weakenAfter (.word (isWord_append hupdate s.table.isWord_aliasName))
    | false =>
      have htable := (Dialect.sqlServer.lexical_tableName s.table).wordThen hupdate
      simpa [target] using htable
  | postgres =>
    simpa only [target, String.toList_append] using
      (Dialect.postgres.lexical_tableReference qualified s.table).wordThen hupdate

theorem UpdateOf.lexical_sourceClause (s : UpdateOf γ) :
    Lexical d .complete .complete false (s.sourceClause d qualified).toList := by
  have hfrom (tables : List Table) : Lexical d .complete .complete false
      (" FROM " ++ commaJoined (tables.map (d.tableReference true))).toList := by
    rw [String.toList_append]
    exact (lexical_tableReferences d true tables).wordThen (by decide)
  cases d with
  | sqlServer =>
    cases qualified with
    | true => exact hfrom _
    | false => exact .empty .complete
  | postgres =>
    unfold sourceClause
    by_cases hempty : s.sources.isEmpty
    · simpa [hempty] using Lexical.empty .complete
    · simpa only [if_neg hempty] using hfrom s.sources

theorem DeleteOf.lexical_target (s : DeleteOf γ) :
    Lexical d .complete .complete false (s.target d qualified).toList := by
  cases d with
  | sqlServer =>
    cases qualified with
    | true =>
      have hword := isWord_append (s := "DELETE ") (by decide) s.table.isWord_aliasName
      exact .weakenAfter (.word hword)
    | false =>
      have htable := (Dialect.sqlServer.lexical_tableName s.table).wordThen (s := "DELETE FROM ")
        (by decide)
      simpa [target] using htable
  | postgres =>
    simpa only [target, String.toList_append] using
      (Dialect.postgres.lexical_tableReference qualified s.table).wordThen (s := "DELETE FROM ")
        (by decide)

theorem DeleteOf.lexical_sourceClause (s : DeleteOf γ) :
    Lexical d .complete .complete false (s.sourceClause d qualified).toList := by
  cases d with
  | sqlServer =>
    cases qualified with
    | true =>
      have htable := (Dialect.sqlServer.lexical_tableReference true s.table).wordThen
        (s := " FROM ") (by decide)
      simpa [sourceClause] using htable
    | false => exact .empty .complete
  | postgres =>
    unfold sourceClause
    by_cases hempty : s.joins.isEmpty
    · simpa [hempty] using Lexical.empty .complete
    · have husing := (lexical_tableReferences .postgres true (s.joins.map Join.table)).wordThen
        (s := " USING ") (by decide)
      simpa [hempty, Function.comp_def] using husing

end Words

/-- A rendered condition is an operand, whichever way its columns are named. -/
def RenderedCondition.Reads (d : Dialect) (b : Bool) (c : RenderedCondition) : Prop :=
  ∀ qualified, (c.fragment qualified).Reads d .ordinary .complete b

section Clauses

variable {d : Dialect} {γ : Type} {r : γ → RenderedCondition} {bad : γ → Bool}

theorem Fragment.reads_connected {connective : String} (hword : isWord connective) {b b' : Bool}
    {left right : Fragment} (hleft : left.Reads d .ordinary .complete b)
    (hright : right.Reads d .ordinary .complete b') :
    (Fragment.connected connective left right).Reads d .complete .ordinary (b || b') :=
  (hleft.parenthesised.weakenAfter.thenWord hword).append hright.parenthesised.strengthenBefore

namespace RenderedCondition

theorem reads_and {c c' : RenderedCondition} {b b' : Bool} (h : c.Reads d b) (h' : c'.Reads d b') :
    (c.and c').Reads d (b || b') := fun qualified =>
  (Fragment.reads_connected (by decide) (h qualified) (h' qualified)).strengthenBefore.weakenAfter

/-- The conjunction of a list reads as its conditions do. -/
theorem reads_foldl_and {cs : List γ} (h : ∀ c ∈ cs, (r c).Reads d (bad c)) {c : RenderedCondition}
    {b : Bool} (hc : c.Reads d b) : ((cs.map r).foldl and c).Reads d (b || cs.any bad) := by
  induction cs generalizing c b with
  | nil => simpa using hc
  | cons next rest ih =>
    rw [List.forall_mem_cons] at h
    simpa [Bool.or_assoc] using ih h.2 (reads_and hc h.1)

theorem reads_clause_all? {keyword : String} (hword : isWord keyword) (qualified : Bool)
    {cs : List γ} (h : ∀ c ∈ cs, (r c).Reads d (bad c)) :
    (clause keyword qualified (all? (cs.map r))).Reads d .complete .complete (cs.any bad) := by
  cases cs with
  | nil => exact Fragment.reads_nil .complete
  | cons first rest =>
    rw [List.forall_mem_cons] at h
    exact .wordThen hword (reads_foldl_and h.2 h.1 qualified)

theorem reads_clause_map {keyword : String} (hword : isWord keyword) (qualified : Bool)
    {c? : Option γ} (h : ∀ c ∈ c?.toList, (r c).Reads d (bad c)) :
    (clause keyword qualified (c?.map r)).Reads d .complete .complete (c?.toList.any bad) := by
  cases c? with
  | none => exact Fragment.reads_nil .complete
  | some c =>
    have hc := h c List.mem_cons_self qualified
    exact (hc.wordThen hword).of_eq (by simp)

end RenderedCondition

theorem PatternMatch.reads (kind : PatternMatch) {expr pattern : Fragment} {b b' : Bool}
    (hexpr : expr.Reads d .ordinary .complete b)
    (hpattern : pattern.Reads d .ordinary .complete b') :
    (kind.render d expr pattern).Reads d .ordinary .complete (b || b') := by
  have hinfix {s t : String} (h : isWord (if kind.negated then s else t)) :
      (expr ++ .ofText (if kind.negated then s else t) ++ pattern).Reads d .ordinary .complete
        (b || b') :=
    (hexpr.thenWord h).append hpattern
  obtain ⟨ignoresCase, negated⟩ := kind
  cases ignoresCase with
  | false => cases d <;> cases negated <;> exact hinfix (by decide)
  | true =>
    cases d with
    | postgres => cases negated <;> exact hinfix (by decide)
    | sqlServer =>
      have hlower : isWord (if negated then " NOT LIKE LOWER" else " LIKE LOWER") := by
        cases negated <;> decide
      have hlowered := (Fragment.Reads.call (s := "LOWER") (by decide) hexpr).weakenAfter
      exact ((hlowered.thenWord hlower).append
        hpattern.parenthesised.strengthenBefore).weakenAfter.strengthenBefore

theorem reads_joins (qualified : Bool) {joins : List (Join γ)}
    (h : ∀ j ∈ joins, (r j.on).Reads d (bad j.on)) :
    (renderJoins d qualified (joins.map (Join.map r))).Reads d .complete .complete
      (joins.any fun j => bad j.on) := by
  rw [renderJoins, List.flatMap_map]
  refine Fragment.reads_flatMap fun j hj => ?_
  have hkind : isWord (" " ++ j.kind.sql ++ " ") := by cases j.kind <;> decide
  have htable := (d.lexical_tableReference qualified j.table).wordThen hkind
  have htext : Lexical d .complete .ordinary false
      (" " ++ j.kind.sql ++ " " ++ d.tableReference qualified j.table ++ " ON ").toList := by
    simpa using htable.thenWord (s := " ON ") (by decide)
  exact ((Fragment.reads_ofText.2 htext).append (h j hj qualified)).of_eq (Bool.false_or _)

end Clauses

section Statements

variable {d : Dialect} {γ : Type} {r : γ → RenderedCondition} {bad : γ → Bool}

theorem Expr.reads_commaSeparated (qualified : Bool) {es : List Expr} (h : ∀ e ∈ es, e.isPlain) :
    (Expr.renderCommaSeparated d qualified es).Reads d .ordinary .complete
      (es.any Expr.subtractsNegative) :=
  Fragment.reads_commaSeparated fun e he => Expr.reads d qualified e (h e he)

theorem Expr.reads_listAfter {opening : String} (hopening : isWord opening) (qualified : Bool)
    {es : List Expr} (h : ∀ e ∈ es, e.isPlain) :
    (Fragment.listAfter opening (es.map (Expr.render d qualified))).Reads d .complete .complete
      (es.any Expr.subtractsNegative) :=
  Fragment.reads_listAfter hopening fun e he => Expr.reads d qualified e (h e he)

theorem SelectBody.reads (qualified : Bool) {b : SelectBody γ} (he : ∀ e ∈ b.exprs, e.isPlain)
    (hc : ∀ c ∈ b.conditions, (r c).Reads d (bad c)) :
    ((b.map r).render d qualified).Reads d .complete .complete
      (b.exprs.any Expr.subtractsNegative || b.conditions.any bad) := by
  simp only [exprs, List.forall_mem_append] at he
  simp only [conditions, List.forall_mem_append, List.forall_mem_map] at hc
  have hopening := Fragment.reads_word (d := d) (b.isWord_opening d)
  have hfields := Expr.reads_commaSeparated (d := d) qualified he.1
  have hsource := Fragment.reads_ofText.2 (b.lexical_sourceClause d qualified)
  have hjoins := reads_joins qualified hc.1.1
  have hfilter := RenderedCondition.reads_clause_map (by decide : isWord " WHERE ") qualified
    hc.1.2
  have hgroupBy := Expr.reads_listAfter (d := d) (by decide : isWord " GROUP BY ") qualified he.2
  have hhaving := RenderedCondition.reads_clause_map (by decide : isWord " HAVING ") qualified
    hc.2
  refine ((((((hopening.append hfields).append hsource).append hjoins).append hfilter).append
    hgroupBy).append hhaving).of_eq ?_
  simp only [exprs, conditions, List.any_append, List.any_map, Function.comp_def, Bool.false_or,
    Bool.or_false]
  ac_rfl

theorem SelectBody.reads_inChain (qualified : Bool) {b : SelectBody γ}
    (he : ∀ e ∈ b.exprs, e.isPlain) (hc : ∀ c ∈ b.conditions, (r c).Reads d (bad c)) :
    ((b.map r).renderInChain d qualified).Reads d .complete .complete
      (b.exprs.any Expr.subtractsNegative || b.conditions.any bad) := by
  have hbody := reads qualified he hc
  cases d with
  | sqlServer => exact hbody
  | postgres =>
    unfold renderInChain
    rw [map_top?]
    cases b.top? with
    | none => exact hbody
    | some n =>
      have hlimit : isWord (" LIMIT " ++ toString n) :=
        isWord_append (by decide) (isWord_toString n)
      exact (hbody.thenWord hlimit).strengthenBefore.weakenAfter.parenthesised.weakenAfter

theorem OrderTerm.reads (qualified : Bool) {term : OrderTerm} (h : term.expr.isPlain) :
    (term.render d qualified).Reads d .ordinary .complete term.expr.subtractsNegative := by
  have hexpr := Expr.reads d qualified term.expr h
  unfold render
  cases term.order with
  | ascending => exact (hexpr.append (Fragment.reads_nil .complete)).of_eq (Bool.or_false _)
  | descending => exact (hexpr.thenWord (s := " DESC") (by decide)).weakenAfter

theorem SelectOf.reads_parts (qualified : Bool) {s : SelectOf γ}
    (h : ∀ b ∈ s.bodies, (∀ e ∈ b.exprs, e.isPlain) ∧ ∀ c ∈ b.conditions, (r c).Reads d (bad c)) :
    ((s.map r).renderParts d qualified).Reads d .complete .complete
      (s.bodies.any fun b => b.exprs.any Expr.subtractsNegative || b.conditions.any bad) := by
  rw [bodies, List.forall_mem_cons, List.forall_mem_map] at h
  obtain ⟨hhead, hunions⟩ := h
  unfold renderParts
  cases hempty : s.unions.isEmpty with
  | true =>
    have hnone : s.unions = [] := List.isEmpty_iff.1 hempty
    simpa [map, bodies, hnone] using SelectBody.reads qualified hhead.1 hhead.2
  | false =>
    have hunion : ∀ u ∈ s.unions,
        (Fragment.ofText (" " ++ u.1.sql ++ " ") ++ (u.2.map r).renderInChain d qualified).Reads d
          .complete .complete
          (u.2.exprs.any Expr.subtractsNegative || u.2.conditions.any bad) := by
      intro u hu
      have hoperator : isWord (" " ++ u.1.sql ++ " ") := by cases u.1 <;> decide
      have hbody := SelectBody.reads_inChain qualified (hunions u hu).1 (hunions u hu).2
      exact hbody.strengthenBefore.wordThen hoperator
    have hchain := Fragment.reads_flatMap hunion
    have hparts := (SelectBody.reads_inChain qualified hhead.1 hhead.2).append hchain
    simpa [map, bodies, hempty, List.flatMap_map, Function.comp_def] using hparts

theorem SelectOf.reads (outerQualified : Bool) {s : SelectOf γ} (he : ∀ e ∈ s.exprs, e.isPlain)
    (hc : ∀ c ∈ s.conditions, (r c).Reads d (bad c)) :
    ((s.map r).render d outerQualified).Reads d .complete .complete
      (s.exprs.any Expr.subtractsNegative || s.conditions.any bad) := by
  simp only [exprs, List.forall_mem_append, List.forall_mem_flatMap, List.forall_mem_map] at he
  simp only [conditions, List.forall_mem_flatMap] at hc
  let qualified := outerQualified || (s.map r).usesAliases RenderedCondition.hasSubquery
  have hparts := SelectOf.reads_parts (d := d) qualified fun b hb => ⟨he.1 b hb, hc b hb⟩
  have horder := Fragment.reads_listAfter (d := d) (by decide : isWord " ORDER BY ")
    fun term hterm => OrderTerm.reads (qualified && (s.map r).unions.isEmpty) (he.2 term hterm)
  have hclosing := Fragment.reads_ofText.2 ((s.map r).lexical_closing d qualified)
  refine ((hparts.append horder).append hclosing).of_eq ?_
  have hbodies : (s.bodies.any fun b =>
      b.exprs.any Expr.subtractsNegative || b.conditions.any bad) =
        (s.bodies.any (fun b => b.exprs.any Expr.subtractsNegative) ||
          s.bodies.any fun b => b.conditions.any bad) := by
    rw [Bool.eq_iff_iff]
    simp only [Bool.or_eq_true, List.any_eq_true, and_or_left, exists_or]
  simp only [exprs, conditions, List.any_append, List.any_flatMap, List.any_map, Function.comp_def,
    hbodies, Bool.or_false]
  ac_rfl

theorem renderOutputField_reads {rows : String} (hrows : isWord rows) {e : Expr} (h : e.isPlain) :
    (renderOutputField rows e).Reads .sqlServer .ordinary .complete e.subtractsNegative := by
  cases e with
  | column c =>
    have hqualifier : isWord (rows ++ ".") := isWord_append hrows (by decide)
    have hcolumn := (Dialect.sqlServer.lexical_identifier c.name c.enclosed).wordThen hqualifier
    refine (Fragment.reads_ofText.2 ?_).strengthenBefore
    simpa [Expr.subtractsNegative] using hcolumn
  | _ => exact Expr.reads _ false _ h

theorem outputClause_reads {rows : String} (hrows : isWord rows) {fields : List Expr}
    (h : ∀ e ∈ fields, e.isPlain) :
    (outputClause rows fields).Reads .sqlServer .complete .complete
      (fields.any Expr.subtractsNegative) :=
  Fragment.reads_listAfter (by decide) fun e he => renderOutputField_reads hrows (h e he)

theorem renderAssignments_reads (qualified : Bool) {assignments : List Assignment}
    (h : ∀ a ∈ assignments, a.value.isPlain) :
    (renderAssignments d qualified assignments).Reads d .complete .complete
      (assignments.any fun a => a.value.subtractsNegative) := by
  refine .wordThen (by decide) (Fragment.reads_commaSeparated fun a ha => ?_)
  have htarget := (d.lexical_identifier a.column.name a.column.enclosed).thenWord (s := "=")
    (by decide)
  rw [← String.toList_append] at htarget
  exact ((Fragment.reads_ofText.2 htarget).append (Expr.reads d qualified a.value (h a ha))).of_eq
    (Bool.false_or _)

theorem InsertTemplate.reads {s : InsertTemplate} (he : ∀ e ∈ s.exprs, e.isPlain) :
    (s.render d).Reads d .complete .complete (s.exprs.any Expr.subtractsNegative) := by
  simp only [exprs, List.forall_mem_append] at he
  have htarget := Fragment.reads_ofText.2 (s.lexical_target d)
  have hvalues := (Expr.reads_commaSeparated (d := d) false he.1).call (s := " VALUES") (by decide)
  cases d with
  | sqlServer =>
    have houtput := outputClause_reads (by decide : isWord "INSERTED") he.2
    refine ((htarget.append houtput.strengthenBefore).append hvalues).weakenAfter.of_eq ?_
    simp [exprs, Bool.or_comm]
  | postgres =>
    have hreturning := Expr.reads_listAfter (d := .postgres) (by decide : isWord " RETURNING ")
      false he.2
    refine ((htarget.append hvalues.strengthenBefore).append hreturning.strengthenBefore).of_eq ?_
    simp [exprs]

theorem UpdateOf.reads {s : UpdateOf γ} (he : ∀ e ∈ s.exprs, e.isPlain)
    (hc : ∀ c ∈ s.filter?.toList, (r c).Reads d (bad c)) :
    ((s.map r).render d).Reads d .complete .complete
      (s.exprs.any Expr.subtractsNegative || s.filter?.toList.any bad) := by
  simp only [exprs, List.forall_mem_append, List.forall_mem_map] at he
  let qualified := (s.map r).usesAliases RenderedCondition.hasSubquery
  have htarget := Fragment.reads_ofText.2 ((s.map r).lexical_target d qualified)
  have hassignments := renderAssignments_reads (d := d) qualified he.1
  have hsources := Fragment.reads_ofText.2 ((s.map r).lexical_sourceClause d qualified)
  have hfilter := RenderedCondition.reads_clause_map (by decide : isWord " WHERE ") qualified hc
  have hchanges := htarget.append hassignments
  cases d with
  | sqlServer =>
    have houtput := outputClause_reads (by decide : isWord "INSERTED") he.2
    refine (((hchanges.append houtput).append hsources).append hfilter).of_eq ?_
    simp [exprs, Function.comp_def]
  | postgres =>
    have hreturning := Expr.reads_listAfter (d := .postgres) (by decide : isWord " RETURNING ")
      qualified he.2
    refine (((hchanges.append hsources).append hfilter).append hreturning).of_eq ?_
    simp only [exprs, List.any_append, List.any_map, Function.comp_def, Bool.false_or,
      Bool.or_false]
    ac_rfl

theorem DeleteOf.reads {s : DeleteOf γ} (he : ∀ e ∈ s.returning, e.isPlain)
    (hc : ∀ c ∈ s.joins.map Join.on ++ s.filter?.toList, (r c).Reads d (bad c)) :
    ((s.map r).render d).Reads d .complete .complete
      (s.returning.any Expr.subtractsNegative ||
        (s.joins.map Join.on ++ s.filter?.toList).any bad) := by
  let qualified := (s.map r).usesAliases RenderedCondition.hasSubquery
  have htarget := Fragment.reads_ofText.2 ((s.map r).lexical_target d qualified)
  have hsources := Fragment.reads_ofText.2 ((s.map r).lexical_sourceClause d qualified)
  cases d with
  | sqlServer =>
    rw [List.forall_mem_append, List.forall_mem_map] at hc
    have houtput := outputClause_reads (by decide : isWord "DELETED") he
    have hfilter := RenderedCondition.reads_clause_map (by decide : isWord " WHERE ") qualified
      hc.2
    -- joins are declared with aliases, so they are only left out where there are none
    have hjoins : Fragment.Reads .sqlServer .complete .complete (s.joins.any fun j => bad j.on)
        (if qualified then renderJoins .sqlServer true (s.joins.map (Join.map r)) else []) := by
      by_cases hqualified : qualified
      · rw [if_pos hqualified]
        exact reads_joins true hc.1
      · have hnone : s.joins = [] := by
          simp only [qualified, usesAliases, map_joins, Bool.or_eq_true, Bool.not_eq_true',
            List.isEmpty_map, not_or, Bool.not_eq_false, List.isEmpty_iff] at hqualified
          exact hqualified.1
        rw [if_neg hqualified, hnone]
        exact Fragment.reads_nil .complete
    refine ((((htarget.append houtput).append hsources).append hjoins).append hfilter).of_eq ?_
    simp [Function.comp_def, Bool.or_assoc]
  | postgres =>
    have hconditions : (s.map r).joins.map Join.on ++ (s.map r).filter?.toList =
        (s.joins.map Join.on ++ s.filter?.toList).map r := by
      cases hfilter : s.filter? <;>
        simp [map_joins, map_filter?, hfilter, Function.comp_def, Join.map_on]
    have hfilter := RenderedCondition.reads_clause_all? (by decide : isWord " WHERE ") qualified
      hc
    rw [← hconditions] at hfilter
    have hreturning := Expr.reads_listAfter (d := .postgres) (by decide : isWord " RETURNING ")
      qualified he
    refine (((htarget.append hsources).append hfilter).append hreturning).of_eq ?_
    simp [Bool.or_comm]

/-- A statement reads as its expressions and conditions do. -/
theorem StatementOf.reads_shape (outerQualified : Bool) {s : StatementOf γ}
    (he : ∀ e ∈ s.exprs, e.isPlain) (hc : ∀ c ∈ s.conditions, (r c).Reads d (bad c)) :
    ((s.map r).renderShape d outerQualified).Reads d .complete .complete
      (s.exprs.any Expr.subtractsNegative || s.conditions.any bad) := by
  cases s with
  | select s => exact SelectOf.reads outerQualified he hc
  | insert s => exact (InsertTemplate.reads he).of_eq (Bool.or_false _).symm
  | update s => exact UpdateOf.reads he hc
  | delete s => exact DeleteOf.reads he hc
  | truncate table =>
    have htable := (d.lexical_tableName table).wordThen (s := "TRUNCATE TABLE ") (by decide)
    rw [← String.toList_append] at htable
    exact Fragment.reads_ofText.2 htable

/-- A level reads as its expressions and the conditions below it do. -/
theorem Predicate.reads {p : Predicate γ} (he : ∀ e ∈ p.exprs, e.isPlain)
    (hc : ∀ c ∈ p.children, (r c).Reads d (bad c)) (qualified : Bool) :
    ((p.map r).fragment d qualified).Reads d .ordinary .complete
      (p.exprs.any Expr.subtractsNegative || p.children.any bad) := by
  have hexpr (e : Expr) (h : e.isPlain) := Expr.reads d qualified e h
  cases p with
  | compare op left right =>
    simp only [exprs, List.forall_mem_cons] at he
    have hop : isWord op.symbol := by cases op <;> decide
    refine (((hexpr left he.1).thenWord hop).append (hexpr right he.2.1)).of_eq ?_
    simp [exprs, children]
  | and left right =>
    simp only [children, List.forall_mem_cons] at hc
    have hand := Fragment.reads_connected (by decide : isWord " AND ") (hc.1 qualified)
      (hc.2.1 qualified)
    exact hand.strengthenBefore.weakenAfter.of_eq (by simp [exprs, children])
  | or left right =>
    simp only [children, List.forall_mem_cons] at hc
    have hor := Fragment.reads_connected (by decide : isWord " OR ") (hc.1 qualified)
      (hc.2.1 qualified)
    exact hor.strengthenBefore.weakenAfter.of_eq (by simp [exprs, children])
  | not inner =>
    simp only [children, List.forall_mem_cons] at hc
    have hnot := (hc.1 qualified).parenthesised.strengthenBefore.wordThen (s := "NOT ") (by decide)
    exact hnot.strengthenBefore.weakenAfter.of_eq (by simp [exprs, children])
  | between expr low high negated =>
    simp only [exprs, List.forall_mem_cons] at he
    have hkeyword : isWord (if negated then " NOT BETWEEN " else " BETWEEN ") := by
      cases negated <;> decide
    have hlow := ((hexpr expr he.1).thenWord hkeyword).append (hexpr low he.2.1)
    refine ((hlow.thenWord (s := " AND ") (by decide)).append (hexpr high he.2.2.1)).of_eq ?_
    simp [exprs, children, Bool.or_assoc]
  | inList expr items negated =>
    simp only [exprs, List.forall_mem_cons] at he
    have hkeyword : isWord (if negated then " NOT IN" else " IN") := by cases negated <;> decide
    have hitems := Expr.reads_commaSeparated (d := d) qualified he.2
    refine (((hexpr expr he.1).thenWord hkeyword).append
      hitems.parenthesised.strengthenBefore).weakenAfter.of_eq ?_
    simp [exprs, children]
  | inQuery expr query negated =>
    simp only [exprs, List.forall_mem_cons] at he
    have hkeyword : isWord (if negated then " NOT IN" else " IN") := by cases negated <;> decide
    have hquery := StatementOf.reads_shape qualified he.2 hc
    refine (((hexpr expr he.1).thenWord hkeyword).append
      hquery.strengthenBefore.parenthesised.strengthenBefore).weakenAfter.of_eq ?_
    simp [exprs, children, Bool.or_assoc]
  | existsQuery query negated =>
    have hkeyword : isWord (if negated then "NOT EXISTS" else "EXISTS") := by
      cases negated <;> decide
    have hquery := StatementOf.reads_shape qualified he hc
    exact (hquery.strengthenBefore.call hkeyword).strengthenBefore.weakenAfter
  | isNull expr negated =>
    simp only [exprs, List.forall_mem_cons] at he
    have hkeyword : isWord (if negated then " IS NOT NULL" else " IS NULL") := by
      cases negated <;> decide
    exact ((hexpr expr he.1).thenWord hkeyword).weakenAfter.of_eq (by simp [exprs, children])
  | like kind expr pattern =>
    simp only [exprs, List.forall_mem_cons] at he
    exact (PatternMatch.reads kind (hexpr expr he.1) (hexpr pattern he.2.1)).of_eq
      (by simp [exprs, children])
  | raw sql => simp [exprs, Expr.isPlain] at he

/-- Whether a negative number is subtracted in a condition. -/
def Condition.subtractsNegative (c : Condition) : Bool := c.exprs.any Expr.subtractsNegative

/-- A condition without text taken over as it is is an operand. -/
theorem Condition.reads (d : Dialect) (c : Condition) (h : ∀ e ∈ c.exprs, e.isPlain) :
    (c.rendered d).Reads d c.subtractsNegative := by
  -- on the levels of the condition, through the conditions of nested statements
  induction c using Condition.induction with
  | h p ih =>
    rw [exprs_of, List.forall_mem_append, List.forall_mem_flatMap] at h
    obtain ⟨hp, hchildren⟩ := h
    have hlevel := fun qualified =>
      Predicate.reads (d := d) hp (fun c hc => ih c hc (hchildren c hc)) qualified
    have hbad : (Condition.of p).subtractsNegative =
        (p.exprs.any Expr.subtractsNegative || p.children.any subtractsNegative) := by
      rw [subtractsNegative, exprs_of, List.any_append, List.any_flatMap]
      rfl
    rw [rendered, fold_of, hbad]
    exact hlevel

/-- A statement without text taken over as it is has lexical structure, and a negative number is
subtracted in its text if and only if one of its expressions does. -/
theorem StatementOf.reads (d : Dialect) (s : Statement) (h : ∀ e ∈ s.allExprs, e.isPlain) :
    (s.render d).Reads d .complete .complete (s.allExprs.any Expr.subtractsNegative) := by
  rw [allExprs, List.forall_mem_append, List.forall_mem_flatMap] at h
  obtain ⟨he, hc⟩ := h
  have hshape := StatementOf.reads_shape (d := d) false he fun c hc' =>
    Condition.reads d c (hc c hc')
  rw [allExprs, List.any_append, List.any_flatMap]
  exact hshape

end Statements

end TypedSql
