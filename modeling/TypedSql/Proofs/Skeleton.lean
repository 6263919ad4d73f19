import TypedSql.Proofs.Writing
import TypedSql.Statement.Compiled
import Mathlib.Data.List.Nodup
/-!
# The skeleton of a statement

A statement with parameters and the same statement with literals differ only in what stands in the
places of the values. The text around these places is their common skeleton: with the placeholders
in its gaps, counted from left to right, it is the one, and with the literals it is the other.

## Main definitions

- `Skeleton`: texts with a gap for each binding between them; `Skeleton.fill` fills the gaps.
- `Output.extend`: what an output becomes when a fragment is written to it.
- `WritesSkeleton`: a program writes a skeleton, with placeholders or with literals.

## Main statements

- `Fragment.write_run`: writing extends the output by the fragment's view.
- `templates_have_skeletons`: every expression, condition and statement writes a skeleton.

## Design notes

The number of gaps is the number of bindings by construction, so a skeleton cannot have a gap
without a value or the other way round.
-/

namespace TypedSql

/-- The text before the first binding, and each binding with the text after it. -/
structure Skeleton where
  opening : String
  gaps : List (Binding × String)

namespace Skeleton

/-- The bindings of the gaps, from left to right. -/
def bindings (s : Skeleton) : List Binding := s.gaps.map Prod.fst

/-- The text with each gap filled by its number, counted from zero, and its binding. -/
def fill (s : Skeleton) (filling : Nat → Binding → String) : String :=
  s.opening ++ String.join (s.gaps.mapIdx fun k (b, after) => filling k b ++ after)

end Skeleton

namespace Fragment

/-- The text around the bindings of a fragment. -/
def skeleton : Fragment → Skeleton
  | [] => ⟨"", []⟩
  | .text s :: rest => ⟨s ++ (skeleton rest).opening, (skeleton rest).gaps⟩
  | .binding b :: rest => ⟨"", (b, (skeleton rest).opening) :: (skeleton rest).gaps⟩

theorem bindings_skeleton (f : Fragment) : f.skeleton.bindings = f.bindings := by
  induction f with
  | nil => rfl
  | cons p f ih =>
    cases p with
    | text s => exact ih
    | binding b => simpa [skeleton, Skeleton.bindings] using ih

/-- With placeholders, the skeleton is the statement with parameters. -/
theorem boundSqlFrom_eq_fill (style : PlaceholderStyle) (position : Nat) (f : Fragment) :
    boundSqlFrom style position f =
      f.skeleton.fill fun k _ => style.placeholder (position + k) := by
  -- a binding moves on the position that the rest of the fragment starts from
  induction f generalizing position with
  | nil => simp [boundSqlFrom, skeleton, Skeleton.fill]
  | cons p f ih =>
    cases p with
    | text s => simp [boundSqlFrom, skeleton, Skeleton.fill, ih, String.append_assoc]
    | binding b =>
      simp [boundSqlFrom, skeleton, Skeleton.fill, ih, String.append_assoc, List.mapIdx_cons,
        Nat.add_assoc, Nat.add_comm 1]

/-- With literals, the skeleton is the statement with its values in the text. -/
theorem inlineSql_eq_fill (d : Dialect) (f : Fragment) :
    inlineSql d f = f.skeleton.fill fun _ b => b.inlineText d := by
  induction f with
  | nil => simp [inlineSql, skeleton, Skeleton.fill]
  | cons p f ih =>
    cases p with
    | text s => simp [inlineSql, skeleton, Skeleton.fill, ih, String.append_assoc]
    | binding b =>
      simp [inlineSql, skeleton, Skeleton.fill, ih, String.append_assoc, List.mapIdx_cons]

end Fragment

/-- What an output becomes when a fragment is written to it. Placeholders continue the numbering of
the parameters that are there. -/
def Output.extend (d : Dialect) (o : Output) (f : Fragment) : Output :=
  match o.parameters? with
  | none => { o with sql := o.sql ++ f.inlineSql d }
  | some ps =>
    { sql := o.sql ++ f.boundSqlFrom ps.style ps.bindings.length
      parameters? := some { ps with bindings := ps.bindings ++ f.bindings } }

namespace Output

variable (d : Dialect) (o : Output)

theorem extend_nil : o.extend d [] = o := by
  obtain ⟨sql, _ | ps⟩ := o <;> simp [extend, Fragment.inlineSql, Fragment.boundSqlFrom]

theorem extend_append (f g : Fragment) : o.extend d (f ++ g) = (o.extend d f).extend d g := by
  obtain ⟨sql, _ | ps⟩ := o <;>
    simp [extend, Fragment.boundSqlFrom_append, String.append_assoc]

end Output

/-- Writing one piece extends the output by it. -/
theorem Piece.write_run (d : Dialect) (p : Piece) (o : Output) :
    (p.write d).run o = ((), o.extend d [p]) := by
  obtain ⟨sql, _ | ps⟩ := o <;> cases p <;>
    simp [Piece.write, SqlWriter.text, SqlWriter.binding, Output.extend, Fragment.inlineSql,
      Fragment.boundSqlFrom, ParameterList.add] <;>
    rfl

/-- Writing a fragment extends the output by it, whatever was written before. -/
theorem Fragment.write_run (d : Dialect) (f : Fragment) (o : Output) :
    (f.write d).run o = ((), o.extend d f) := by
  -- on the fragment, for every output: the rest is written to what its first piece has changed
  induction f generalizing o with
  | nil => rw [Output.extend_nil]; rfl
  | cons p f ih =>
    calc (Fragment.write d (p :: f)).run o
      _ = (Fragment.write d f).run ((p.write d).run o).2 := rfl
      _ = (Fragment.write d f).run (o.extend d [p]) := by rw [Piece.write_run]
      _ = ((), (o.extend d [p]).extend d f) := ih _
      _ = ((), o.extend d (p :: f)) := by rw [← Output.extend_append, List.singleton_append]

namespace Fragment

variable (d : Dialect) (f : Fragment)

@[simp]
theorem bound_sql : ((f.write d).bound d).sql = f.boundSql d := by
  simp [SqlWriter.bound, write_run, Output.extend, boundSql]

@[simp]
theorem bound_bindings : ((f.write d).bound d).bindings = f.bindings := by
  simp [SqlWriter.bound, write_run, Output.extend, Output.bindings]

@[simp]
theorem inlined_sql : (f.write d).inlined.sql = f.inlineSql d := by
  simp [SqlWriter.inlined, write_run, Output.extend]

@[simp]
theorem inlined_bindings : (f.write d).inlined.bindings = [] := by
  simp [SqlWriter.inlined, write_run, Output.extend, Output.bindings]

end Fragment

/-- With parameters, a statement is the bound view of its fragment. -/
theorem StatementOf.compile_bind (d : Dialect) (s : Statement) :
    s.compile d .bind = ⟨(s.render d).boundSql d, d.placeholderStyle, (s.render d).bindings⟩ := by
  simp [compile, write_eq]

/-- With its values in the text, a statement is the inline view of its fragment. -/
theorem StatementOf.compile_inline (d : Dialect) (s : Statement) :
    s.compile d .inline = ⟨(s.render d).inlineSql d, d.placeholderStyle, []⟩ := by
  simp [compile, write_eq]

namespace PlaceholderStyle

/-- Different positions have different placeholders. -/
theorem placeholder_injective (style : PlaceholderStyle) :
    Function.Injective style.placeholder := by
  -- the digits of a number read back as the number
  have digits_injective : Function.Injective (toString : Nat → String) := fun j k h => by
    simpa [Nat.ofDigitChars_ten_toDigits] using
      congrArg (fun s : String => Nat.ofDigitChars 10 s.toList 0) h
  intro j k h
  cases style with
  | atZero => exact digits_injective ((String.append_right_inj _).1 h)
  | dollarOne => exact Nat.succ.inj (digits_injective ((String.append_right_inj _).1 h))

end PlaceholderStyle

namespace Binding

theorem parameter_name {name : String} {slots : List Value} {b : Binding} {p : Parameter}
    (h : b.parameter name slots = .ok p) : p.name = name := by
  cases b with
  | fixed type v => cases h; rfl
  | slot index type =>
    rw [parameter] at h
    split at h <;> cases h
    rfl

/-- The parameters of an execution are named by the placeholders, in the same order. -/
theorem resolveFrom_names {style : PlaceholderStyle} {slots : List Value} {position : Nat}
    {bindings : List Binding} {ps : List Parameter}
    (h : resolveFrom style slots position bindings = .ok ps) :
    ps.map Parameter.name =
      (List.range bindings.length).map fun k => style.placeholder (position + k) := by
  induction bindings generalizing position ps with
  | nil => cases h; rfl
  | cons b rest ih =>
    rw [resolveFrom] at h
    split at h
    · cases h
    · rename_i p hp
      cases hrest : resolveFrom style slots (position + 1) rest with
      | error e => rw [hrest] at h; cases h
      | ok qs =>
        rw [hrest] at h
        cases h
        simp [List.range_succ_eq_map, parameter_name hp, ih hrest, Nat.add_assoc, Nat.add_comm 1,
          Function.comp_def]

end Binding

/-- A program writes a skeleton: with placeholders where values are bound, and with literals where
they are not. The parameters of an execution carry the placeholders as names, all different. -/
structure WritesSkeleton (d : Dialect) (w : SqlWriter) (s : Skeleton) : Prop where
  bindings_eq : (w.bound d).bindings = s.bindings
  bound_eq : (w.bound d).sql = s.fill fun k _ => d.placeholderStyle.placeholder k
  inlined_eq : w.inlined.sql = s.fill fun _ b => b.inlineText d
  inlined_bindings_eq : w.inlined.bindings = []
  names_eq : ∀ slots ps, Binding.resolve d.placeholderStyle s.bindings slots = .ok ps →
    ps.map Parameter.name = (List.range s.gaps.length).map d.placeholderStyle.placeholder
  nodup_names : ((List.range s.gaps.length).map d.placeholderStyle.placeholder).Nodup

/-- A fragment is written as its skeleton. -/
theorem Fragment.writesSkeleton (d : Dialect) (f : Fragment) :
    WritesSkeleton d (f.write d) f.skeleton := by
  constructor
  case bindings_eq => rw [bound_bindings, bindings_skeleton]
  case bound_eq => simp [boundSql, boundSqlFrom_eq_fill]
  case inlined_eq => rw [inlined_sql, inlineSql_eq_fill]
  case inlined_bindings_eq => exact inlined_bindings d f
  case names_eq =>
    intro slots ps h
    simpa [Skeleton.bindings] using Binding.resolveFrom_names h
  case nodup_names => exact List.nodup_range.map d.placeholderStyle.placeholder_injective

/-- Whatever is written for a template, the text with placeholders and the text with literals are
one skeleton with its gaps filled; those of a statement are its renderings in the two modes. -/
theorem templates_have_skeletons (d : Dialect) :
    (∀ (qualified : Bool) (e : Expr), ∃ s, WritesSkeleton d (e.write d qualified) s) ∧
    (∀ (qualified : Bool) (c : Condition), ∃ s, WritesSkeleton d (c.write d qualified) s) ∧
    ∀ statement : Statement, ∃ s, WritesSkeleton d (statement.write d) s ∧
      statement.compile d .bind =
        ⟨s.fill fun k _ => d.placeholderStyle.placeholder k, d.placeholderStyle, s.bindings⟩ ∧
      statement.compile d .inline =
        ⟨s.fill fun _ b => b.inlineText d, d.placeholderStyle, []⟩ := by
  refine ⟨fun qualified e => ?_, fun qualified c => ?_, fun statement => ?_⟩
  · rw [Expr.write_eq]
    exact ⟨_, Fragment.writesSkeleton d _⟩
  · rw [Condition.write_eq]
    exact ⟨_, Fragment.writesSkeleton d _⟩
  · have hskeleton : WritesSkeleton d (statement.write d) (statement.render d).skeleton := by
      rw [StatementOf.write_eq]
      exact Fragment.writesSkeleton d _
    refine ⟨_, hskeleton, ?_, ?_⟩
    · simp only [StatementOf.compile, hskeleton.bound_eq, hskeleton.bindings_eq]
    · simp only [StatementOf.compile, hskeleton.inlined_eq, hskeleton.inlined_bindings_eq]

end TypedSql
