import TypedSql.Proofs.Chains
/-!
# Templates under edits

A template is edited in place, and an edit that is refused leaves it as it was. The edits of a
selection are all made on the last part of its chain, which is another one after each part that is
added. So the parts before the last one are final, and what a part has of conditions it keeps.

## Main definitions

- `Setter.IsAnswered`: what a change in place answers and leaves behind.
- `Edit.triedAll`: a template after edits, whether they are refused or not.
- `Edit.accepted`: the edits that are not refused.
- `SelectOf.IsEditedTo`: what one edit makes of a chain.
- `SelectOf.IsKeptIn`: what the edits that follow leave of a chain.

## Main statements

- `SelectOf.isAnswered_apply`: an edit of a chain is refused or changes its end.
- `SelectOf.isKeptIn_triedAll`: any edits keep what has been made.
- `templates_change_at_their_end`: the same for all templates, from the first edit on.
-/

namespace TypedSql

variable {γ τ : Type}

namespace Setter

variable (f : Setter τ Unit) (s : τ) (refusal? : Option QueryError) (Change : τ → Prop)

/-- The change is refused with the error and leaves the template as it was, or there is no error and
the change is made. -/
def IsAnswered : Prop :=
  match refusal? with
  | some error => f.attempt s = (.error error, s)
  | none => ∃ s', f.attempt s = (.ok (), s') ∧ Change s'

variable {f s refusal? Change} {refuses : τ → Bool} {error : QueryError} {change : τ → τ}

theorem isAnswered_guarded (hrefused : refuses s = true → refusal? = some error)
    (haccepted : refuses s = false → refusal? = none ∧ Change (change s)) :
    (guarded refuses error change).IsAnswered s refusal? Change := by
  cases hrefuses : refuses s with
  | true =>
    rw [hrefused hrefuses]
    exact attempt_guarded.trans (if_pos hrefuses)
  | false =>
    obtain ⟨hnone, hchange⟩ := haccepted hrefuses
    rw [hnone]
    exact ⟨change s, attempt_guarded.trans (if_neg (Bool.eq_false_iff.1 hrefuses)), hchange⟩

/-- What can be set once is refused if it is there already. -/
theorem isAnswered_once (part? : τ → Option γ) (hchange : part? s = none → Change (change s)) :
    (guarded (fun s => (part? s).isSome) error change).IsAnswered s ((part? s).map fun _ => error)
      Change := by
  apply isAnswered_guarded
  · intro hsome
    obtain ⟨old, hold⟩ := Option.isSome_iff_exists.1 hsome
    rw [hold, Option.map_some]
  · intro hnone
    rw [Option.isSome_eq_false_iff, Option.isNone_iff_eq_none] at hnone
    exact ⟨by rw [hnone, Option.map_none], hchange hnone⟩

theorem isAnswered_modify (hchange : Change (change s)) :
    (modify change : Setter τ Unit).IsAnswered s none Change :=
  ⟨change s, attempt_modify, hchange⟩

theorem isAnswered_pure (hchange : Change s) : (pure () : Setter τ Unit).IsAnswered s none Change :=
  ⟨s, rfl, hchange⟩

namespace IsAnswered

theorem imp {Change' : τ → Prop} (h : f.IsAnswered s refusal? Change)
    (himp : ∀ s', Change s' → Change' s') : f.IsAnswered s refusal? Change' := by
  cases refusal? with
  | some error => exact h
  | none =>
    obtain ⟨s', hs', hchange⟩ := h
    exact ⟨s', hs', himp s' hchange⟩

/-- What holds of the template and after the change holds of what is there afterwards. -/
theorem attempt_induction {P : τ → Prop} (h : f.IsAnswered s refusal? Change) (hs : P s)
    (hchange : ∀ s', Change s' → P s') : P (f.attempt s).2 := by
  cases refusal? with
  | some error =>
    have hattempt : f.attempt s = (.error error, s) := h
    rw [hattempt]
    exact hs
  | none =>
    obtain ⟨s', hs', hs''⟩ := h
    rw [hs']
    exact hchange s' hs''

end IsAnswered

end Setter

namespace Edit

section Attempts

variable (apply : Edit γ → Setter τ Unit)

/-- The template after edits in turn, whatever becomes of each. -/
def triedAll (s : τ) (es : List (Edit γ)) : τ := es.foldl (fun s e => ((apply e).attempt s).2) s

/-- The edits that are not refused when all are tried in turn. -/
def accepted (s : τ) : List (Edit γ) → List (Edit γ)
  | [] => []
  | e :: rest =>
    match (apply e).attempt s with
    | (.ok (), s') => e :: accepted s' rest
    | (.error _, s') => accepted s' rest

variable {apply}

/-- What each change that is made keeps true, any number of edits keep true. -/
theorem triedAll_induction {refusal? : τ → Edit γ → Option QueryError}
    {Change : τ → Edit γ → τ → Prop}
    (hanswered : ∀ s e, (apply e).IsAnswered s (refusal? s e) (Change s e)) {P : τ → Prop}
    (hstep : ∀ s e s', P s → Change s e s' → P s') {s : τ} (hs : P s) (es : List (Edit γ)) :
    P (triedAll apply s es) := by
  induction es generalizing s with
  | nil => exact hs
  | cons e rest ih =>
    have hs' : P ((apply e).attempt s).2 :=
      (hanswered s e).attempt_induction hs fun s' hchange => hstep s e s' hs hchange
    exact ih hs'

end Attempts

/-- Whether the edit sets the condition on rows. -/
def isFilter : Edit γ → Bool
  | filter _ => true
  | _ => false

/-- The part that the edit adds to a chain, if it adds one. -/
def appended? : Edit γ → Option (SetOperator × SelectBody γ)
  | union operator fields => some (operator, { fields })
  | _ => none

/-- Whether the edit concerns a part of a chain and not the chain as a whole. -/
def isOfParts : Edit γ → Bool
  | orderBy _ => false
  | lock _ => false
  | option _ => false
  | _ => true

/-- Why an edit is refused that is made on a part, if it is. -/
def refusal? (body : SelectBody γ) : Edit γ → Option QueryError
  | top n => if n = 0 then some .invalidTop else none
  | filter _ => body.filter?.map fun _ => .whereAlreadySet
  | having _ => body.having?.map fun _ => .havingAlreadySet
  | _ => none

end Edit

section Selections

/-- A part keeps the conditions that it has; it may get others. -/
structure SelectBody.KeepsConditions (body body' : SelectBody γ) : Prop where
  filter?_eq : ∀ c, body.filter? = some c → body'.filter? = some c
  having?_eq : ∀ c, body.having? = some c → body'.having? = some c

namespace SelectBody.KeepsConditions

variable {a b c : SelectBody γ}

theorem refl (body : SelectBody γ) : body.KeepsConditions body := ⟨fun _ h => h, fun _ h => h⟩

theorem trans (hab : a.KeepsConditions b) (hbc : b.KeepsConditions c) : a.KeepsConditions c :=
  ⟨fun _ h => hbc.filter?_eq _ (hab.filter?_eq _ h),
    fun _ h => hbc.having?_eq _ (hab.having?_eq _ h)⟩

end SelectBody.KeepsConditions

namespace SelectOf

variable (s : SelectOf γ)

/-- What unites the last part with the one before. -/
def lastOperator? : Option SetOperator := s.unions.getLast?.map Prod.fst

theorem parts_withCurrent (body : SelectBody γ) :
    (s.withCurrent body).parts = s.parts.dropLast ++ [(s.lastOperator?, body)] := by
  cases hunions : s.unions.getLast? with
  | none => simp [withCurrent, parts, lastOperator?, List.getLast?_eq_none_iff.1 hunions]
  | some part =>
    obtain ⟨earlier, hearlier⟩ := List.getLast?_eq_some_iff.1 hunions
    simp only [withCurrent, parts, lastOperator?, hearlier, List.getLast?_concat,
      List.dropLast_concat, List.map_append, List.map_cons, List.map_nil, Option.map_some]
    rw [← List.cons_append, ← List.cons_append, List.dropLast_concat]

theorem withCurrent_current : s.withCurrent s.current = s := by
  cases hunions : s.unions.getLast? with
  | none => simp [withCurrent, current, hunions]
  | some part =>
    obtain ⟨earlier, hearlier⟩ := List.getLast?_eq_some_iff.1 hunions
    cases s
    simp_all [withCurrent, current]

/-- The parts of a chain are the earlier ones and the last one. -/
theorem parts_eq : s.parts = s.parts.dropLast ++ [(s.lastOperator?, s.current)] := by
  rw [← parts_withCurrent, withCurrent_current]

theorem bodies_eq_map_parts : s.bodies = s.parts.map Prod.snd := by
  simp [bodies, parts, Function.comp_def]

theorem rest_withCurrent (body : SelectBody γ) :
    { s.withCurrent body with head := s.head, unions := s.unions } = s := by
  cases hunions : s.unions.getLast? <;> simp [withCurrent, hunions]

/-- What an edit makes of a chain that does not refuse it. The parts before the last one are as they
were, and so is the last one if another is added; what is not of the parts is left alone by edits of
the parts. -/
structure IsEditedTo (e : Edit γ) (s' : SelectOf γ) : Prop where
  parts_eq : s'.parts =
    match e.appended? with
    | some (operator, body) => s.parts ++ [(some operator, body)]
    | none => s.parts.dropLast ++ [(s.lastOperator?, s'.current)]
  rest_eq : e.isOfParts → { s' with head := s.head, unions := s.unions } = s
  keeps : e.appended? = none → s.current.KeepsConditions s'.current
  filter?_eq : ∀ c, e = .filter c → s'.current.filter? = some c
  having?_eq : ∀ c, e = .having c → s'.current.having? = some c
  top?_ne : s.current.top? ≠ some 0 → s'.current.top? ≠ some 0

variable {s}

theorem isEditedTo_modifyCurrent {e : Edit γ} {f : SelectBody γ → SelectBody γ}
    (he : e.appended? = none) (hkeeps : s.current.KeepsConditions (f s.current))
    (hfilter : ∀ c, e = .filter c → (f s.current).filter? = some c)
    (hhaving : ∀ c, e = .having c → (f s.current).having? = some c)
    (htop : s.current.top? ≠ some 0 → (f s.current).top? ≠ some 0) :
    s.IsEditedTo e (s.modifyCurrent f) := by
  have hcurrent := s.current_modifyCurrent f
  refine ⟨?_, ?_, ?_, ?_, ?_, ?_⟩
  · simp only [he, hcurrent]
    exact s.parts_withCurrent _
  · exact fun _ => s.rest_withCurrent _
  · rw [hcurrent]
    exact fun _ => hkeeps
  · rw [hcurrent]
    exact hfilter
  · rw [hcurrent]
    exact hhaving
  · rw [hcurrent]
    exact htop

/-- An edit that leaves the parts alone. -/
theorem isEditedTo_of_parts_eq {e : Edit γ} {s' : SelectOf γ} (he : e.appended? = none)
    (hcurrent : s'.current = s.current) (hparts : s'.parts = s.parts)
    (hrest : e.isOfParts → { s' with head := s.head, unions := s.unions } = s)
    (hfilter : ∀ c, e ≠ .filter c) (hhaving : ∀ c, e ≠ .having c) : s.IsEditedTo e s' := by
  refine ⟨?_, hrest, ?_, ?_, ?_, ?_⟩
  · simp only [he, hcurrent, hparts]
    exact s.parts_eq
  · rw [hcurrent]
    exact fun _ => .refl _
  · exact fun c hc => (hfilter c hc).elim
  · exact fun c hc => (hhaving c hc).elim
  · rw [hcurrent]
    exact id

theorem isEditedTo_addUnion (operator : SetOperator) (fields : List Expr) :
    s.IsEditedTo (.union operator fields) (s.addUnion operator { fields }) := by
  have hcurrent := s.current_addUnion operator { fields }
  refine ⟨?_, fun _ => rfl, ?_, ?_, ?_, ?_⟩
  · simp [addUnion, parts, Edit.appended?]
  · intro happended
    cases happended
  · intro c hc
    cases hc
  · intro c hc
    cases hc
  · rw [hcurrent]
    simp

variable (s)

/-- An edit of a chain is refused for a limit of zero and for a condition that the last part has
already, and changes the end of the chain otherwise. -/
theorem isAnswered_apply (e : Edit γ) :
    (apply e).IsAnswered s (e.refusal? s.current) (s.IsEditedTo e) := by
  cases e with
  | top n =>
    apply Setter.isAnswered_guarded
    · intro hzero
      simp [Edit.refusal?, of_decide_eq_true hzero]
    · intro hpos
      have hn : n ≠ 0 := of_decide_eq_false hpos
      refine ⟨by simp [Edit.refusal?, hn], ?_⟩
      exact isEditedTo_modifyCurrent rfl ⟨fun _ h => h, fun _ h => h⟩ nofun nofun
        fun _ => by simpa using hn
  | filter c =>
    refine Setter.isAnswered_once (fun s : SelectOf γ => s.current.filter?) ?_
    intro hnone
    refine isEditedTo_modifyCurrent rfl ⟨?_, fun _ h => h⟩ ?_ nofun id
    · rw [hnone]
      nofun
    · rintro _ ⟨⟩
      rfl
  | having c =>
    refine Setter.isAnswered_once (fun s : SelectOf γ => s.current.having?) ?_
    intro hnone
    refine isEditedTo_modifyCurrent rfl ⟨fun _ h => h, ?_⟩ nofun ?_ id
    · rw [hnone]
      nofun
    · rintro _ ⟨⟩
      rfl
  | union operator fields => exact Setter.isAnswered_modify (isEditedTo_addUnion operator fields)
  | distinct | source table | hint hint | join kind table on | groupBy expr | field expr =>
    exact Setter.isAnswered_modify
      (isEditedTo_modifyCurrent rfl ⟨fun _ h => h, fun _ h => h⟩ nofun nofun id)
  | orderBy term | lock lock | option option =>
    exact Setter.isAnswered_modify (isEditedTo_of_parts_eq rfl rfl rfl nofun nofun nofun)
  | noFilter | assign a | returning fields =>
    exact Setter.isAnswered_pure (isEditedTo_of_parts_eq rfl rfl rfl (fun _ => rfl) nofun nofun)

/-- The chain is still there in a later one. The parts before its last one have not changed, and its
last one has kept its conditions. -/
def IsKeptIn (s' : SelectOf γ) : Prop :=
  ∀ i operator? body, s.parts[i]? = some (operator?, body) → ∃ body',
    s'.parts[i]? = some (operator?, body') ∧ (i + 1 < s.parts.length → body' = body) ∧
      body.KeepsConditions body'

namespace IsKeptIn

variable {s} {s' s'' : SelectOf γ}

theorem refl (s : SelectOf γ) : s.IsKeptIn s :=
  fun _ _ body h => ⟨body, h, fun _ => rfl, .refl body⟩

theorem length_le (h : s.IsKeptIn s') : s.parts.length ≤ s'.parts.length := by
  apply Nat.le_of_not_lt
  intro hi
  obtain ⟨body', hbody', -⟩ := h _ _ _ (List.getElem?_eq_getElem hi)
  rw [List.getElem?_eq_none (Nat.le_refl _)] at hbody'
  cases hbody'

theorem trans (h : s.IsKeptIn s') (h' : s'.IsKeptIn s'') : s.IsKeptIn s'' := by
  intro i operator? body hbody
  obtain ⟨body', hbody', hfinal, hkeeps⟩ := h i operator? body hbody
  obtain ⟨body'', hbody'', hfinal', hkeeps'⟩ := h' i operator? body' hbody'
  refine ⟨body'', hbody'', fun hi => ?_, hkeeps.trans hkeeps'⟩
  have hlength := h.length_le
  rw [hfinal' (by omega), hfinal hi]

/-- One edit keeps the chain. -/
theorem of_isEditedTo {e : Edit γ} (h : s.IsEditedTo e s') : s.IsKeptIn s' := by
  intro i operator? body hbody
  obtain ⟨hi, -⟩ := List.getElem?_eq_some_iff.1 hbody
  have hparts := h.parts_eq
  cases happended : e.appended? with
  | some part =>
    rw [happended] at hparts
    refine ⟨body, ?_, fun _ => rfl, .refl body⟩
    rw [hparts, List.getElem?_append_left hi, hbody]
  | none =>
    simp only [happended] at hparts
    have hold := s.parts_eq
    generalize s.parts.dropLast = earlier at hold hparts
    rw [hold] at hbody hi ⊢
    rw [hparts]
    by_cases hearlier : i < earlier.length
    · rw [List.getElem?_append_left hearlier] at hbody ⊢
      exact ⟨body, hbody, fun _ => rfl, .refl body⟩
    · -- the last part is the one that the edit was made on
      have hlast : i = earlier.length := by
        simp only [List.length_append, List.length_singleton] at hi
        omega
      subst hlast
      obtain ⟨rfl, rfl⟩ : s.lastOperator? = operator? ∧ s.current = body := by
        simpa using hbody
      exact ⟨s'.current, List.getElem?_concat_length, by simp, h.keeps happended⟩

end IsKeptIn

variable {s} {s' : SelectOf γ}

/-- Any edits keep the chain. -/
theorem isKeptIn_triedAll (s : SelectOf γ) (es : List (Edit γ)) :
    s.IsKeptIn (Edit.triedAll apply s es) :=
  Edit.triedAll_induction isAnswered_apply
    (fun _ _ _ hkept hedited => hkept.trans (.of_isEditedTo hedited)) (.refl s) es

theorem IsEditedTo.top?_bodies {e : Edit γ} (h : s.IsEditedTo e s')
    (htop : ∀ body ∈ s.bodies, body.top? ≠ some 0) : ∀ body ∈ s'.bodies, body.top? ≠ some 0 := by
  have hparts := congrArg (List.map Prod.snd) h.parts_eq
  rw [← bodies_eq_map_parts] at hparts
  cases happended : e.appended? with
  | some part =>
    have hfresh : part.2.top? = none := by
      cases e <;> cases happended
      rfl
    simp only [happended, List.map_append, ← bodies_eq_map_parts] at hparts
    rw [hparts, List.forall_mem_append]
    exact ⟨htop, by simp [hfresh]⟩
  | none =>
    rw [s.bodies_eq, List.forall_mem_append, List.forall_mem_singleton] at htop
    simp only [happended, List.map_append, List.map_dropLast, ← bodies_eq_map_parts] at hparts
    rw [hparts, List.forall_mem_append]
    exact ⟨htop.1, by simpa using h.top?_ne htop.2⟩

/-- No edits make a limit of zero. -/
theorem top?_triedAll (h : ∀ body ∈ s.bodies, body.top? ≠ some 0) (es : List (Edit γ)) :
    ∀ body ∈ (Edit.triedAll apply s es).bodies, body.top? ≠ some 0 :=
  Edit.triedAll_induction (P := fun s : SelectOf γ => ∀ body ∈ s.bodies, body.top? ≠ some 0)
    isAnswered_apply (fun _ _ _ htop hedited => hedited.top?_bodies htop) h es

end SelectOf

end Selections

section Changes

/-- The condition on rows is set by the edit, which was not there before, or it stays as it is. -/
def Edit.SetsFilterOnce (e : Edit γ) (before? after? : Option γ) : Prop :=
  match e with
  | .filter c => before? = none ∧ after? = some c
  | _ => after? = before?

/-- Where the first condition is accepted and any other one refused, one of all that are tried is
accepted, unless there is a condition from the beginning. -/
theorem Edit.countP_isFilter_accepted {apply : Edit γ → Setter τ Unit} (filter? : τ → Option γ)
    (refusal? : τ → Edit γ → Option QueryError)
    (hanswered : ∀ s e, (apply e).IsAnswered s (refusal? s e)
      fun s' => e.SetsFilterOnce (filter? s) (filter? s'))
    (hfirst : ∀ s c, filter? s = none → refusal? s (.filter c) = none) (s : τ)
    (es : List (Edit γ)) :
    (accepted apply s es).countP isFilter =
      if (filter? s).isSome then 0 else min 1 (es.countP isFilter) := by
  induction es generalizing s with
  | nil => simp [accepted]
  | cons e rest ih =>
    have hanswer := hanswered s e
    cases hrefusal : refusal? s e with
    | some error =>
      rw [hrefusal] at hanswer
      have hattempt : (apply e).attempt s = (.error error, s) := hanswer
      have haccepted : accepted apply s (e :: rest) = accepted apply s rest := by
        rw [accepted, hattempt]
      rw [haccepted, ih s]
      cases e with
      | filter c =>
        have hthere : (filter? s).isSome := by
          rw [Option.isSome_iff_ne_none]
          intro hnone
          rw [hfirst s c hnone] at hrefusal
          cases hrefusal
        simp [hthere]
      | _ => simp [isFilter]
    | none =>
      rw [hrefusal] at hanswer
      obtain ⟨s', hattempt, hsets⟩ := hanswer
      have haccepted : accepted apply s (e :: rest) = e :: accepted apply s' rest := by
        rw [accepted, hattempt]
      rw [haccepted, List.countP_cons, ih s']
      cases e with
      | filter c =>
        obtain ⟨hbefore, hafter⟩ := hsets
        simp [hbefore, hafter, isFilter]
      | _ =>
        have hkept : filter? s' = filter? s := hsets
        simp [hkept, isFilter]

namespace UpdateOf

/-- Why a change of rows refuses an edit, if it does. -/
def refusal? (s : UpdateOf γ) : Edit γ → Option QueryError
  | .source table =>
    if table.sameInstance s.table then some (.updateTableInFrom table.name) else none
  | .filter _ => s.filter?.map fun _ => .whereAlreadySet
  | _ => none

/-- What an edit makes of a change of rows that does not refuse it. -/
structure IsEditedTo (s : UpdateOf γ) (e : Edit γ) (s' : UpdateOf γ) : Prop where
  table_eq : s'.table = s.table
  sources : ∀ source ∈ s'.sources, source ∈ s.sources ∨ source.sameInstance s.table = false
  setsFilterOnce : e.SetsFilterOnce s.filter? s'.filter?

theorem isAnswered_apply (s : UpdateOf γ) (e : Edit γ) :
    (apply e).IsAnswered s (s.refusal? e) (s.IsEditedTo e) := by
  cases e with
  | source table =>
    apply Setter.isAnswered_guarded
    · intro hsame
      simp [refusal?, hsame]
    · intro hother
      refine ⟨by simp [refusal?, hother], rfl, ?_, rfl⟩
      intro source hsource
      obtain hold | hnew := List.mem_append.1 hsource
      · exact .inl hold
      · exact .inr (List.mem_singleton.1 hnew ▸ hother)
  | filter c =>
    exact Setter.isAnswered_once UpdateOf.filter? fun hnone => ⟨rfl, fun _ h => .inl h, hnone, rfl⟩
  | assign a | returning fields => exact Setter.isAnswered_modify ⟨rfl, fun _ h => .inl h, rfl⟩
  | _ => exact Setter.isAnswered_pure ⟨rfl, fun _ h => .inl h, rfl⟩

/-- Whatever is tried, the changed table stays the same and is not read besides. -/
theorem sources_triedAll (table : Table) (es : List (Edit γ)) :
    let s := Edit.triedAll apply { table } es
    s.table = table ∧ ∀ source ∈ s.sources, source.sameInstance table = false := by
  apply Edit.triedAll_induction (P := fun s : UpdateOf γ =>
    s.table = table ∧ ∀ source ∈ s.sources, source.sameInstance table = false) isAnswered_apply
  · rintro s e s' ⟨rfl, hsources⟩ hs'
    refine ⟨hs'.table_eq, fun source hsource => ?_⟩
    exact (hs'.sources source hsource).elim (hsources source) id
  · exact ⟨rfl, nofun⟩

theorem countP_isFilter_accepted (s : UpdateOf γ) (es : List (Edit γ)) :
    (Edit.accepted apply s es).countP Edit.isFilter =
      if s.filter?.isSome then 0 else min 1 (es.countP Edit.isFilter) := by
  apply Edit.countP_isFilter_accepted UpdateOf.filter? refusal?
  · exact fun s e => (s.isAnswered_apply e).imp fun _ hs' => hs'.setsFilterOnce
  · intro s c hnone
    simp [refusal?, hnone]

end UpdateOf

namespace DeleteOf

/-- Why a removal of rows refuses an edit, if it does. -/
def refusal? (s : DeleteOf γ) : Edit γ → Option QueryError
  | .filter _ => s.filter?.map fun _ => .whereAlreadySet
  | _ => none

theorem isAnswered_apply (s : DeleteOf γ) (e : Edit γ) :
    (apply e).IsAnswered s (s.refusal? e) fun s' => e.SetsFilterOnce s.filter? s'.filter? := by
  cases e with
  | filter c => exact Setter.isAnswered_once DeleteOf.filter? fun hnone => ⟨hnone, rfl⟩
  | join kind table on | returning fields => exact Setter.isAnswered_modify rfl
  | _ => exact Setter.isAnswered_pure rfl

theorem countP_isFilter_accepted (s : DeleteOf γ) (es : List (Edit γ)) :
    (Edit.accepted apply s es).countP Edit.isFilter =
      if s.filter?.isSome then 0 else min 1 (es.countP Edit.isFilter) := by
  apply Edit.countP_isFilter_accepted DeleteOf.filter? refusal? isAnswered_apply
  intro s c hnone
  simp [refusal?, hnone]

end DeleteOf

end Changes

/-- A selection is edited at its end only. Each edit is refused, for a limit of zero or a condition
that the last part has already, and then changes nothing; or it changes the last part and no other
one, or adds another part. So whatever was tried and is tried further, the parts before the last one
are final, a condition stays where it was set, and no limit is zero. Of all conditions that are
tried on a change or a removal of rows the first one is accepted and no other. A changed table is
never among the tables that its update reads. -/
theorem templates_change_at_their_end :
    (∀ (fields : List Expr) (before further : List (Edit γ)),
      let s := Edit.triedAll SelectOf.apply (.ofBody { fields }) before
      let s' := Edit.triedAll SelectOf.apply s further
      (∀ e, (SelectOf.apply e).IsAnswered s (e.refusal? s.current) (s.IsEditedTo e)) ∧
        s.IsKeptIn s' ∧ ∀ body ∈ s'.bodies, body.top? ≠ some 0) ∧
    (∀ (table : Table) (es : List (Edit γ)),
      let s := Edit.triedAll UpdateOf.apply { table } es
      (∀ e, (UpdateOf.apply e).IsAnswered s (s.refusal? e) (s.IsEditedTo e)) ∧
        (Edit.accepted UpdateOf.apply { table } es).countP Edit.isFilter =
          min 1 (es.countP Edit.isFilter) ∧
        s.table = table ∧ ∀ source ∈ s.sources, source.sameInstance table = false) ∧
    ∀ (table : Table) (es : List (Edit γ)),
      let s := Edit.triedAll DeleteOf.apply { table } es
      (∀ e, (DeleteOf.apply e).IsAnswered s (s.refusal? e)
          fun s' => e.SetsFilterOnce s.filter? s'.filter?) ∧
        (Edit.accepted DeleteOf.apply { table } es).countP Edit.isFilter =
          min 1 (es.countP Edit.isFilter) := by
  refine ⟨?selections, ?updates, ?removals⟩
  case selections =>
    intro fields before further s s'
    have hfresh : ∀ body ∈ (SelectOf.ofBody { fields } : SelectOf γ).bodies,
        body.top? ≠ some 0 := by
      intro body hbody
      rw [List.mem_singleton.1 hbody]
      exact nofun
    exact ⟨s.isAnswered_apply, s.isKeptIn_triedAll further,
      SelectOf.top?_triedAll (SelectOf.top?_triedAll hfresh before) further⟩
  case updates =>
    intro table es s
    exact ⟨s.isAnswered_apply, UpdateOf.countP_isFilter_accepted { table } es,
      UpdateOf.sources_triedAll table es⟩
  case removals =>
    intro table es s
    exact ⟨s.isAnswered_apply, DeleteOf.countP_isFilter_accepted { table } es⟩

/-- Edits of a chain of two parts. The second part gets a condition too, and refuses another. -/
def editsOfInvoices : List (Edit Condition) :=
  let invoices : Table := { schema? := none, name := "Invoice", enclosed := false, id := ⟨0, 0⟩ }
  [.source invoices, .filter (.of (.raw "Total>0")), .union .unionAll [.raw "0"], .source invoices,
    .filter (.of (.raw "Total<0")), .filter (.of (.raw "Total=0"))]

/-- Further edits, of which two are refused, leave the first part as it was, and the condition of
the second one. -/
theorem isKeptIn_editsOfInvoices :
    let s := Edit.triedAll SelectOf.apply (.ofBody { fields := [.raw "Total"] }) editsOfInvoices
    let s' := Edit.triedAll SelectOf.apply s
      [.top 0, .top 5, .filter (.of (.raw "1=1")), .union .union [.raw "1"], .distinct]
    (∃ body, s.parts[0]? = some (none, body) ∧ s'.parts[0]? = some (none, body) ∧
      body.filter? = some (.of (.raw "Total>0"))) ∧
    (∃ body, s'.parts[1]? = some (some .unionAll, body) ∧ body.top? = some 5 ∧
      body.filter? = some (.of (.raw "Total<0"))) ∧
    s'.parts.length = 3 ∧ ∀ body ∈ s'.bodies, body.top? ≠ some 0 := by
  intro s s'
  obtain ⟨hselections, -⟩ := templates_change_at_their_end (γ := Condition)
  obtain ⟨-, hkept, htop⟩ := hselections [.raw "Total"] editsOfInvoices
    [.top 0, .top 5, .filter (.of (.raw "1=1")), .union .union [.raw "1"], .distinct]
  obtain ⟨first, hfirst, hfinal, -⟩ := hkept 0 none _ rfl
  obtain ⟨second, hsecond, -, hkeeps⟩ := hkept 1 (some .unionAll) _ rfl
  refine ⟨⟨first, ?_, hfirst, ?_⟩, ⟨second, hsecond, ?_, hkeeps.filter?_eq _ rfl⟩, rfl, htop⟩
  · rw [hfinal (by decide)]
    rfl
  · rw [hfinal (by decide)]
    rfl
  · obtain rfl := (Prod.mk.inj (Option.some.inj hsecond)).2
    rfl

end TypedSql
