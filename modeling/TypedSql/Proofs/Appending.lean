import TypedSql.Proofs.Skeleton
/-!
# Writing only appends

An expression, a condition or a statement is written to an output that has a text already, and
parameters already if values are bound. All of that stays in front of what is written. What is
written is a skeleton that depends on nothing of it: its bindings are the same behind any
parameters, and so is the text with its placeholders, but for their numbers, which count on from
the parameters that are there. So statements inside of one another share one numbering.

## Main definitions

- `SqlWriter.Appends`: from every output on, a program appends a skeleton and nothing else.

## Main statements

- `SqlWriter.Appends.run_bind`: one program after another numbers its placeholders behind it.
- `SqlWriter.Appends.bound_text_shift`: more parameters in front shift the placeholders by as many.
- `writing_only_appends`: expressions, conditions and statements append skeletons.

## Design notes

The style of the placeholders is that of the parameters, which need not be the style of the dialect
that is written.
-/

namespace TypedSql

/-- The text of a skeleton with placeholders, when `position` of them stand before it. -/
def Skeleton.boundText (s : Skeleton) (style : PlaceholderStyle) (position : Nat) : String :=
  s.fill fun k _ => style.placeholder (position + k)

/-- The text of a skeleton with literals. -/
def Skeleton.inlineText (s : Skeleton) (d : Dialect) : String := s.fill fun _ b => b.inlineText d

namespace SqlWriter

/-- Whatever was written and registered before, the program leaves it as it is and puts the skeleton
behind it. Of the parameters that were there, the text knows the style and how many they are; the
bindings that are registered know nothing of them. -/
structure Appends (d : Dialect) (w : SqlWriter) (s : Skeleton) : Prop where
  run_inlined : ∀ sql : String,
    w.run ⟨sql, none⟩ = ((), ⟨sql ++ s.inlineText d, none⟩)
  run_bound : ∀ (sql : String) (style : PlaceholderStyle) (before : List Binding),
    w.run ⟨sql, some ⟨style, before⟩⟩ =
      ((), ⟨sql ++ s.boundText style before.length, some ⟨style, before ++ s.bindings⟩⟩)

namespace Appends

variable {d : Dialect} {w next : SqlWriter} {s t : Skeleton}

/-- Behind more parameters, the same text is written with each placeholder shifted by as many. -/
theorem bound_text_shift (h : Appends d w s) (sql : String) (style : PlaceholderStyle)
    {before before' : List Binding} {difference : Nat}
    (hlength : before'.length = before.length + difference) :
    (w.run ⟨sql, some ⟨style, before'⟩⟩).2.sql =
      sql ++ s.fill fun k _ => style.placeholder (before.length + k + difference) := by
  rw [h.run_bound, Skeleton.boundText, hlength]
  simp only [Nat.add_right_comm _ difference]

/-- One program after another: the placeholders of the second are numbered behind those of the
first. -/
theorem run_bind (h : Appends d w s) (hnext : Appends d next t) (sql : String)
    (style : PlaceholderStyle) (before : List Binding) :
    (do w; next : SqlWriter).run ⟨sql, some ⟨style, before⟩⟩ =
      ((), ⟨sql ++ s.boundText style before.length ++
          t.boundText style (before.length + s.bindings.length),
        some ⟨style, before ++ s.bindings ++ t.bindings⟩⟩) := by
  calc (do w; next : SqlWriter).run ⟨sql, some ⟨style, before⟩⟩
    _ = next.run (w.run ⟨sql, some ⟨style, before⟩⟩).2 := rfl
    _ = next.run ⟨sql ++ s.boundText style before.length, some ⟨style, before ++ s.bindings⟩⟩ := by
      rw [h.run_bound]
    _ = _ := by rw [hnext.run_bound, List.length_append]

end Appends

end SqlWriter

/-- A fragment appends its skeleton. -/
theorem Fragment.appends (d : Dialect) (f : Fragment) :
    SqlWriter.Appends d (f.write d) f.skeleton where
  run_inlined sql := by
    simp only [write_run, Output.extend, Skeleton.inlineText, inlineSql_eq_fill]
  run_bound sql style before := by
    simp only [write_run, Output.extend, Skeleton.boundText, boundSqlFrom_eq_fill,
      bindings_skeleton]

/-- Whatever is rendered, with or without aliases, is appended: to every text, and behind all
parameters or without any. There is one skeleton for all of these outputs. -/
theorem writing_only_appends (d : Dialect) (qualified : Bool) :
    (∀ e : Expr, ∃ s, SqlWriter.Appends d (e.write d qualified) s) ∧
    (∀ c : Condition, ∃ s, SqlWriter.Appends d (c.write d qualified) s) ∧
    ∀ statement : Statement, ∃ s,
      SqlWriter.Appends d ((statement.map (Condition.written d)).writeShape d qualified) s := by
  refine ⟨fun e => ?_, fun c => ?_, fun statement => ?_⟩
  · rw [Expr.write_eq]
    exact ⟨_, Fragment.appends d _⟩
  · rw [Condition.write_eq]
    exact ⟨_, Fragment.appends d _⟩
  · -- the programs of the conditions are those of their fragments
    have hconditions : Condition.written d = RenderedCondition.written d ∘ Condition.rendered d :=
      funext (Condition.written_eq d)
    rw [hconditions, ← StatementOf.map_map, StatementOf.writeShape_written]
    exact ⟨_, Fragment.appends d _⟩

end TypedSql
