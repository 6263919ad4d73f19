import TypedSql.Statement.Edit
/-!
# Chains of selections

Edits of a selection concern the last part of its chain. The parts before it are the same
afterwards, and the new last part is all that has changed; another part is added at the end.

## Main definitions

- `StatementOf.parts`: the parts of a statement that is a selection.

## Main statements

- `SelectOf.bodies_eq`: the chain is its earlier parts and the last one.
- `SelectOf.bodies_modifyCurrent`: an edit of the last part leaves the earlier ones.
- `SelectOf.validate_eq`: what is wrong with a chain all of whose parts have tables.
-/

namespace TypedSql

variable {γ : Type}

/-- The parts of a selection. Other statements have none. -/
def StatementOf.parts : StatementOf γ → List (SelectBody γ)
  | select s => s.bodies
  | _ => []

namespace SelectOf

variable (s : SelectOf γ)

theorem bodies_eq : s.bodies = s.bodies.dropLast ++ [s.current] := by
  have hlast : s.bodies.getLast? = some s.current := by
    rw [bodies, current]
    cases hunions : s.unions.getLast? with
    | none => simp [List.getLast?_eq_none_iff.1 hunions]
    | some part => simp [List.getLast?_cons, List.getLast?_map, hunions]
  obtain ⟨earlier, hearlier⟩ := List.getLast?_eq_some_iff.1 hlast
  rw [hearlier, List.dropLast_concat]

theorem current_withCurrent (body : SelectBody γ) : (s.withCurrent body).current = body := by
  cases hunions : s.unions.getLast? with
  | none => simp [withCurrent, current, hunions]
  | some part => simp [withCurrent, current, hunions]

theorem bodies_withCurrent (body : SelectBody γ) :
    (s.withCurrent body).bodies = s.bodies.dropLast ++ [body] := by
  cases hunions : s.unions.getLast? with
  | none => simp [withCurrent, bodies, List.getLast?_eq_none_iff.1 hunions]
  | some part =>
    have hne : s.unions.map Prod.snd ≠ [] := by
      intro hnil
      simp [List.map_eq_nil_iff.1 hnil] at hunions
    simp [withCurrent, bodies, hunions, List.dropLast_cons_of_ne_nil hne, List.map_dropLast]

variable (f : SelectBody γ → SelectBody γ)

theorem current_modifyCurrent : (s.modifyCurrent f).current = f s.current :=
  s.current_withCurrent _

theorem bodies_modifyCurrent : (s.modifyCurrent f).bodies = s.bodies.dropLast ++ [f s.current] :=
  s.bodies_withCurrent _

theorem current_addUnion (operator : SetOperator) (body : SelectBody γ) :
    (s.addUnion operator body).current = body := by
  simp [addUnion, current]

theorem bodies_addUnion (operator : SetOperator) (body : SelectBody γ) :
    (s.addUnion operator body).bodies = s.bodies ++ [body] := by
  simp [addUnion, bodies]

variable {s}

/-- A chain whose parts have their tables lacks nothing but fields. -/
theorem validate_eq (h : ∀ body ∈ s.bodies, body.source?.isSome) :
    s.validate =
      if ∃ body ∈ s.bodies, body.fields = [] then .error .noSelectFields else .ok () := by
  rw [validate]
  generalize s.bodies = bodies at h ⊢
  induction bodies with
  | nil => simp [pure, Except.pure]
  | cons body rest ih =>
    obtain ⟨hbody, hrest⟩ := List.forall_mem_cons.1 h
    have hsource : body.source?.isNone = false := by simpa using hbody
    cases hfields : body.fields with
    | nil => simp [SelectBody.validate, hsource, hfields, bind, Except.bind]
    | cons e fields =>
      have hvalid : body.validate = .ok () := by simp [SelectBody.validate, hsource, hfields]
      have hstep : (body :: rest).forM SelectBody.validate = rest.forM SelectBody.validate := by
        simp [hvalid, bind, Except.bind]
      rw [hstep, ih hrest]
      simp [hfields]

end SelectOf

end TypedSql
