import TypedSql.Proofs.Fragment
import TypedSql.Proofs.Shape
import TypedSql.Statement.Write
/-!
# Writing is writing a fragment

The program that writes an expression, a condition or a statement does what writing its fragment
piece by piece does. Since this is an equation between programs, it holds from every output on:
whatever the text and the parameters are so far, and with or without parameters.

## Main definitions

- `Fragment.write`: writes the pieces of a fragment in order.

## Main statements

- `Expr.write_eq`, `Condition.write_eq`, `StatementOf.write_eq`: the equations.
-/

namespace TypedSql

open SqlWriter

/-- Writes one piece. -/
def Piece.write (d : Dialect) : Piece → SqlWriter
  | .text s => SqlWriter.text s
  | .binding b => SqlWriter.binding d b

namespace Fragment

/-- Writes the pieces of a fragment in order. -/
def write (d : Dialect) (f : Fragment) : SqlWriter := f.forM (Piece.write d)

variable {d : Dialect}

@[simp]
theorem write_nil : write d [] = pure () := rfl

@[simp]
theorem write_binding (b : Binding) : write d [.binding b] = binding d b := by
  simp [write, Piece.write]

@[simp]
theorem write_ofText (s : String) : (ofText s).write d = text s := by
  simp [write, ofText, Piece.write]

@[simp]
theorem write_append (f g : Fragment) : write d (f ++ g) = (do write d f; write d g) := by
  simp [write]

@[simp]
theorem write_parenthesised (f : Fragment) :
    f.parenthesised.write d = (do text "("; write d f; text ")") := by
  simp [parenthesised]

theorem write_flatMap {α : Type} (g : α → Fragment) (as : List α) :
    write d (as.flatMap g) = as.forM fun a => write d (g a) := by
  induction as with
  | nil => rfl
  | cons a as ih => rw [List.flatMap_cons, write_append, ih]; rfl

theorem write_commaSeparated (fs : List Fragment) :
    (Fragment.commaSeparated fs).write d = SqlWriter.commaSeparated (fs.map (write d)) := by
  cases fs with
  | nil => rfl
  | cons first rest =>
    induction rest generalizing first with
    | nil => simp [SqlWriter.commaSeparated]
    | cons next rest ih =>
      rw [commaSeparated_cons_cons, write_append, write_append, ih]
      simp [SqlWriter.commaSeparated]

end Fragment

namespace SqlWriter

/-- Two texts are one. -/
theorem text_bind_text (s t : String) : (do text s; text t) = text (s ++ t) := by
  funext o
  show (((), { o with sql := o.sql ++ s ++ t }) : Unit × Output) =
    ((), { o with sql := o.sql ++ (s ++ t) })
  rw [String.append_assoc]

/-- Two texts are one, in front of more. -/
theorem text_bind_text_bind (s t : String) (next : SqlWriter) :
    (do text s; text t; next) = (do text (s ++ t); next) := by
  rw [← text_bind_text, bind_assoc]

end SqlWriter

section Expressions

variable (d : Dialect) (qualified : Bool)

/-- A call is written as its fragment, if its arguments are. -/
theorem SqlFunction.writeCall_eq (function : SqlFunction) (args : List Fragment) :
    function.writeCall d (args.map (Fragment.write d)) = (function.renderCall d args).write d := by
  cases function <;>
    simp [writeCall, renderCall, Fragment.write_commaSeparated, text_bind_text_bind, text_bind_text]

mutual

theorem Expr.write_eq : ∀ e : Expr, e.write d qualified = (e.render d qualified).write d
  | .column c => by simp [Expr.write, Expr.render]
  | .value type v => by simp [Expr.write, Expr.render]
  | .slot index type => by simp [Expr.write, Expr.render]
  | .call function args => by
    rw [Expr.write, Expr.render, Expr.writeList_eq args, SqlFunction.writeCall_eq]
  | .arithmetic op left right => by
    simp [Expr.write, Expr.render, Expr.write_eq left, Expr.write_eq right]
  | .raw sql => by simp [Expr.write, Expr.render]

theorem Expr.writeList_eq : ∀ es : List Expr,
    Expr.writeList d qualified es = (Expr.renderList d qualified es).map (Fragment.write d)
  | [] => rfl
  | e :: rest => by
    simp [Expr.writeList, Expr.renderList, Expr.write_eq e, Expr.writeList_eq rest]

end

/-- The program of an expression, as a function. -/
theorem Expr.write_eq_comp :
    Expr.write d qualified = fun e => (e.render d qualified).write d :=
  funext (Expr.write_eq d qualified)

theorem Expr.writeCommaSeparated_eq (es : List Expr) :
    Expr.writeCommaSeparated d qualified es =
      (Expr.renderCommaSeparated d qualified es).write d := by
  simp [Expr.writeCommaSeparated, Expr.renderCommaSeparated, Fragment.write_commaSeparated,
    Expr.write_eq_comp, Function.comp_def]

end Expressions

/-- A rendered condition as a written one. -/
def RenderedCondition.written (d : Dialect) (c : RenderedCondition) : WrittenCondition where
  hasSubquery := c.hasSubquery
  write qualified := (c.fragment qualified).write d

@[simp]
theorem RenderedCondition.hasSubquery_comp_written (d : Dialect) :
    WrittenCondition.hasSubquery ∘ written d = hasSubquery := rfl

section Clauses

variable (d : Dialect) (qualified : Bool)

theorem SqlWriter.connected_eq (connective : String) (left right : Fragment) :
    connected connective (left.write d) (right.write d) =
      (Fragment.connected connective left right).write d := by
  simp [connected, SqlWriter.parenthesised, Fragment.connected]

theorem SqlWriter.listAfter_eq (opening : String) (fs : List Fragment) :
    listAfter opening (fs.map (Fragment.write d)) = (Fragment.listAfter opening fs).write d := by
  cases fs <;> simp [listAfter, Fragment.listAfter, Fragment.write_commaSeparated]

namespace WrittenCondition

theorem and_written (left right : RenderedCondition) :
    and (left.written d) (right.written d) = (left.and right).written d := by
  simp [and, RenderedCondition.and, RenderedCondition.written, SqlWriter.connected_eq]

theorem all?_written (cs : List RenderedCondition) :
    all? (cs.map (RenderedCondition.written d)) =
      (RenderedCondition.all? cs).map (RenderedCondition.written d) := by
  cases cs with
  | nil => rfl
  | cons c rest =>
    induction rest generalizing c with
    | nil => rfl
    | cons next rest ih => simpa [all?, RenderedCondition.all?, and_written] using ih (c.and next)

theorem writeClause_written (keyword : String) (c? : Option RenderedCondition) :
    writeClause keyword qualified (c?.map (RenderedCondition.written d)) =
      (RenderedCondition.clause keyword qualified c?).write d := by
  cases c? <;> simp [writeClause, RenderedCondition.clause, RenderedCondition.written]

end WrittenCondition

theorem PatternMatch.write_eq (kind : PatternMatch) (expr pattern : Fragment) :
    kind.write d (expr.write d) (pattern.write d) = (kind.render d expr pattern).write d := by
  obtain ⟨ignoresCase, negated⟩ := kind
  cases d <;> cases ignoresCase <;> cases negated <;>
    simp [PatternMatch.write, PatternMatch.render, text_bind_text_bind]

theorem writeJoins_written (joins : List (Join RenderedCondition)) :
    writeJoins d qualified (joins.map (Join.map (RenderedCondition.written d))) =
      (renderJoins d qualified joins).write d := by
  rw [writeJoins, renderJoins, Fragment.write_flatMap, List.forM_eq_forM, List.forM_map]
  congr 1
  funext j
  simp [Join.map, RenderedCondition.written, text_bind_text_bind, String.append_assoc]

namespace SelectBody

theorem write_written (b : SelectBody RenderedCondition) :
    (b.map (RenderedCondition.written d)).write d qualified = (b.render d qualified).write d := by
  rw [write, render, Expr.writeCommaSeparated_eq, map_joins, writeJoins_written, map_filter?,
    map_having?, WrittenCondition.writeClause_written, WrittenCondition.writeClause_written]
  simp [← SqlWriter.listAfter_eq, Expr.write_eq_comp, Function.comp_def]

theorem writeInChain_written (b : SelectBody RenderedCondition) :
    (b.map (RenderedCondition.written d)).writeInChain d qualified =
      (b.renderInChain d qualified).write d := by
  cases d <;> cases htop : b.top? <;>
    simp [writeInChain, renderInChain, htop, write_written, text_bind_text]

end SelectBody

theorem OrderTerm.write_eq (term : OrderTerm) :
    term.write d qualified = (term.render d qualified).write d := by
  obtain ⟨expr, order⟩ := term
  cases order <;> simp [OrderTerm.write, OrderTerm.render, Expr.write_eq]

theorem writeOutputField_eq (rows : String) (e : Expr) :
    writeOutputField rows e = (renderOutputField rows e).write .sqlServer := by
  cases e with
  | column c =>
    simp [writeOutputField, renderOutputField, text_bind_text, String.append_assoc]
  | _ => simp [writeOutputField, renderOutputField, Expr.write_eq]

theorem writeOutput_eq (rows : String) (fields : List Expr) :
    writeOutput rows fields = (outputClause rows fields).write .sqlServer := by
  have hfield : writeOutputField rows = fun e => (renderOutputField rows e).write .sqlServer :=
    funext (writeOutputField_eq rows)
  simp [writeOutput, outputClause, ← SqlWriter.listAfter_eq, hfield, Function.comp_def]

theorem writeReturning_eq (fields : List Expr) :
    writeReturning qualified fields = (returningClause qualified fields).write .postgres := by
  simp [writeReturning, returningClause, ← SqlWriter.listAfter_eq, Expr.write_eq_comp,
    Function.comp_def]

theorem writeAssignments_eq (assignments : List Assignment) :
    writeAssignments d qualified assignments =
      (renderAssignments d qualified assignments).write d := by
  simp [writeAssignments, renderAssignments, Fragment.write_commaSeparated, Expr.write_eq,
    text_bind_text_bind, Function.comp_def]

end Clauses

section Statements

variable (d : Dialect)

theorem SelectOf.write_written (outerQualified : Bool) (s : SelectOf RenderedCondition) :
    (s.map (RenderedCondition.written d)).write d outerQualified =
      (s.render d outerQualified).write d := by
  have horder (qualified : Bool) : OrderTerm.write d qualified =
      fun term => (term.render d qualified).write d :=
    funext (OrderTerm.write_eq d qualified)
  simp only [write, render, usesAliases_map, RenderedCondition.hasSubquery_comp_written,
    closing_map, map_orderBy, map_unions, parts, map_head]
  -- a chain renders its parts in another way than a single selection
  cases hunions : s.unions with
  | nil =>
    simp [renderParts, hunions, SelectBody.write_written, horder, ← SqlWriter.listAfter_eq,
      Function.comp_def]
  | cons union rest =>
    simp [renderParts, hunions, SelectBody.writeInChain_written, horder, ← SqlWriter.listAfter_eq,
      Function.comp_def, Fragment.write_flatMap]

theorem InsertTemplate.write_eq (s : InsertTemplate) : s.write d = (s.render d).write d := by
  cases d <;>
    simp [write, render, writeOutput_eq, writeReturning_eq, Expr.writeCommaSeparated_eq,
      text_bind_text_bind]

theorem UpdateOf.write_written (s : UpdateOf RenderedCondition) :
    (s.map (RenderedCondition.written d)).write d = (s.render d).write d := by
  cases d <;>
    simp [write, render, usesAliases_map, map_filter?, writeOutput_eq, writeReturning_eq,
      writeAssignments_eq, WrittenCondition.writeClause_written]

theorem DeleteOf.write_written (s : DeleteOf RenderedCondition) :
    (s.map (RenderedCondition.written d)).write d = (s.render d).write d := by
  cases d with
  | sqlServer =>
    -- only a statement with aliases has a clause for its sources and joins
    cases hqualified : s.usesAliases RenderedCondition.hasSubquery <;>
      simp [write, render, usesAliases_map, hqualified, map_joins, map_filter?, writeOutput_eq,
        writeJoins_written, WrittenCondition.writeClause_written]
  | postgres =>
    -- the conditions of the joins are merged into the filter
    have hconditions : (s.map (RenderedCondition.written .postgres)).joins.map Join.on ++
        (s.map (RenderedCondition.written .postgres)).filter?.toList =
          (s.joins.map Join.on ++ s.filter?.toList).map (RenderedCondition.written .postgres) := by
      cases hfilter : s.filter? <;>
        simp [map_joins, map_filter?, hfilter, Function.comp_def, Join.map_on]
    simp only [write, render, usesAliases_map, RenderedCondition.hasSubquery_comp_written,
      hconditions, WrittenCondition.all?_written, WrittenCondition.writeClause_written]
    simp [writeReturning_eq]

theorem StatementOf.writeShape_written (outerQualified : Bool) (s : StatementOf RenderedCondition) :
    (s.map (RenderedCondition.written d)).writeShape d outerQualified =
      (s.renderShape d outerQualified).write d := by
  cases s with
  | select s => exact SelectOf.write_written d outerQualified s
  | insert s => exact InsertTemplate.write_eq d s
  | update s => exact UpdateOf.write_written d s
  | delete s => exact DeleteOf.write_written d s
  | truncate table => simp [map, writeShape, renderShape, text_bind_text]

theorem Predicate.write_written (qualified : Bool) (p : Predicate RenderedCondition) :
    (p.map (RenderedCondition.written d)).write d qualified = (p.fragment d qualified).write d := by
  cases p with
  | compare op left right => simp [map, write, fragment, Expr.write_eq]
  | and left right => exact SqlWriter.connected_eq d _ _ _
  | or left right => exact SqlWriter.connected_eq d _ _ _
  | not inner =>
    simp [map, write, fragment, RenderedCondition.written, SqlWriter.parenthesised]
  | between expr low high negated => simp [map, write, fragment, Expr.write_eq]
  | inList expr items negated =>
    cases negated <;>
      simp [map, write, fragment, Expr.write_eq, Expr.writeCommaSeparated_eq, text_bind_text_bind]
  | inQuery expr query negated =>
    cases negated <;>
      simp [map, write, fragment, Expr.write_eq, StatementOf.writeShape_written,
        text_bind_text_bind]
  | existsQuery query negated =>
    cases negated <;>
      simp [map, write, fragment, StatementOf.writeShape_written, text_bind_text_bind]
  | isNull expr negated => simp [map, write, fragment, Expr.write_eq]
  | like kind expr pattern => simp [map, write, fragment, Expr.write_eq, PatternMatch.write_eq]
  | raw sql => simp [map, write, fragment]

/-- A condition's programs are those of its fragments. -/
theorem Condition.written_eq (c : Condition) : c.written d = (c.rendered d).written d := by
  refine (Condition.fold_fusion (RenderedCondition.written d) (fun p => ?_) c).symm
  rw [Predicate.hasSubqueryWith_map, RenderedCondition.hasSubquery_comp_written,
    funext fun qualified => Predicate.write_written d qualified p]
  rfl

theorem Condition.write_eq (qualified : Bool) (c : Condition) :
    c.write d qualified = (c.render d qualified).write d := by
  rw [Condition.write, Condition.written_eq]
  rfl

/-- One level of a rendered condition. -/
theorem Condition.render_of (qualified : Bool) (p : Predicate Condition) :
    (Condition.of p).render d qualified = (p.map (Condition.rendered d)).fragment d qualified := by
  rw [render, rendered, fold_of]

theorem StatementOf.write_eq (s : Statement) : s.write d = (s.render d).write d := by
  -- writing folds each condition to programs, rendering to fragments; the one factors through
  -- the other
  have hconditions : Condition.written d = RenderedCondition.written d ∘ Condition.rendered d :=
    funext (Condition.written_eq d)
  rw [StatementOf.write, hconditions, ← StatementOf.map_map, StatementOf.writeShape_written]
  rfl

end Statements

end TypedSql
