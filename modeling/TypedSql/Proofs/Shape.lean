import TypedSql.Statement.Condition
/-!
# Laws of shapes

A shape that holds conditions is a functor in them, and what it says about its conditions it says
through the function that they are mapped with. The laws of mapping make folds fuse.

## Main statements

- `Predicate.map_map`, `Predicate.map_congr`: mapping twice, and mapping equal conditions.
- `Condition.fold_fusion`: a function after a fold is a fold.
-/

namespace TypedSql

variable {γ δ ε : Type}

theorem Join.map_map (g : δ → ε) (f : γ → δ) (j : Join γ) : (j.map f).map g = j.map (g ∘ f) := rfl

theorem Join.map_on (f : γ → δ) (j : Join γ) : (j.map f).on = f j.on := rfl

namespace SelectBody

section Fields

variable (f : γ → δ) (b : SelectBody γ)

@[simp] theorem map_top? : (b.map f).top? = b.top? := rfl

@[simp] theorem map_fields : (b.map f).fields = b.fields := rfl

@[simp] theorem map_groupBy : (b.map f).groupBy = b.groupBy := rfl

theorem map_joins : (b.map f).joins = b.joins.map (Join.map f) := rfl

theorem map_filter? : (b.map f).filter? = b.filter?.map f := rfl

theorem map_having? : (b.map f).having? = b.having?.map f := rfl

end Fields

theorem map_map (g : δ → ε) (f : γ → δ) (b : SelectBody γ) : (b.map f).map g = b.map (g ∘ f) := by
  simp [map, Join.map_map, Function.comp_def]

/-- A selection is mapped by what happens to its conditions. -/
theorem map_congr {f g : γ → δ} {b : SelectBody γ} (h : ∀ c ∈ b.conditions, f c = g c) :
    b.map f = b.map g := by
  simp only [conditions, List.mem_append, List.mem_map, Option.mem_toList] at h
  have hjoins : b.joins.map (Join.map f) = b.joins.map (Join.map g) := by
    refine List.map_congr_left fun j hj => ?_
    rw [Join.map, Join.map, h j.on (.inl (.inl ⟨j, hj, rfl⟩))]
  have hfilter : b.filter?.map f = b.filter?.map g :=
    Option.map_congr fun c hc => h c (.inl (.inr hc))
  have hhaving : b.having?.map f = b.having?.map g :=
    Option.map_congr fun c hc => h c (.inr hc)
  rw [map, map, hjoins, hfilter, hhaving]

theorem usesAliases_map (hasSubquery : δ → Bool) (f : γ → δ) (b : SelectBody γ) :
    (b.map f).usesAliases hasSubquery = b.usesAliases (hasSubquery ∘ f) := by
  simp [usesAliases, map, Option.any_map, Function.comp_def]

end SelectBody

namespace SelectOf

@[simp] theorem map_orderBy (f : γ → δ) (s : SelectOf γ) : (s.map f).orderBy = s.orderBy := rfl

theorem map_head (f : γ → δ) (s : SelectOf γ) : (s.map f).head = s.head.map f := rfl

theorem map_unions (f : γ → δ) (s : SelectOf γ) :
    (s.map f).unions = s.unions.map fun (operator, body) => (operator, body.map f) := rfl

theorem bodies_map (f : γ → δ) (s : SelectOf γ) :
    (s.map f).bodies = s.bodies.map (SelectBody.map f) := by
  simp [bodies, map_head, map_unions, Function.comp_def]

theorem map_map (g : δ → ε) (f : γ → δ) (s : SelectOf γ) : (s.map f).map g = s.map (g ∘ f) := by
  simp [map, SelectBody.map_map, Function.comp_def]

theorem map_congr {f g : γ → δ} {s : SelectOf γ} (h : ∀ c ∈ s.conditions, f c = g c) :
    s.map f = s.map g := by
  simp only [conditions, bodies, List.flatMap_cons, List.mem_append, List.mem_flatMap,
    List.mem_map] at h
  have hhead : s.head.map f = s.head.map g := SelectBody.map_congr fun c hc => h c (.inl hc)
  have hunions : (s.map f).unions = (s.map g).unions := by
    rw [map_unions, map_unions]
    refine List.map_congr_left fun u hu => ?_
    have hbody : u.2.map f = u.2.map g :=
      SelectBody.map_congr fun c hc => h c (.inr ⟨u.2, ⟨u, hu, rfl⟩, hc⟩)
    simp only [hbody]
  rw [map_unions, map_unions] at hunions
  rw [map, map, hhead, hunions]

theorem usesAliases_map (hasSubquery : δ → Bool) (f : γ → δ) (s : SelectOf γ) :
    (s.map f).usesAliases hasSubquery = s.usesAliases (hasSubquery ∘ f) := by
  simp [usesAliases, bodies, map, SelectBody.usesAliases_map, Function.comp_def]

end SelectOf

namespace UpdateOf

@[simp] theorem map_assignments (f : γ → δ) (s : UpdateOf γ) :
    (s.map f).assignments = s.assignments := rfl

@[simp] theorem map_returning (f : γ → δ) (s : UpdateOf γ) :
    (s.map f).returning = s.returning := rfl

theorem map_filter? (f : γ → δ) (s : UpdateOf γ) : (s.map f).filter? = s.filter?.map f := rfl

theorem usesAliases_map (hasSubquery : δ → Bool) (f : γ → δ) (s : UpdateOf γ) :
    (s.map f).usesAliases hasSubquery = s.usesAliases (hasSubquery ∘ f) := by
  simp [usesAliases, map, Option.any_map, Function.comp_def]

end UpdateOf

namespace DeleteOf

@[simp] theorem map_returning (f : γ → δ) (s : DeleteOf γ) :
    (s.map f).returning = s.returning := rfl

theorem map_joins (f : γ → δ) (s : DeleteOf γ) : (s.map f).joins = s.joins.map (Join.map f) := rfl

theorem map_filter? (f : γ → δ) (s : DeleteOf γ) : (s.map f).filter? = s.filter?.map f := rfl

theorem usesAliases_map (hasSubquery : δ → Bool) (f : γ → δ) (s : DeleteOf γ) :
    (s.map f).usesAliases hasSubquery = s.usesAliases (hasSubquery ∘ f) := by
  simp [usesAliases, map, Option.any_map, Function.comp_def]

end DeleteOf

namespace StatementOf

theorem map_map (g : δ → ε) (f : γ → δ) (s : StatementOf γ) : (s.map f).map g = s.map (g ∘ f) := by
  cases s with
  | select s => simp [map, SelectOf.map_map]
  | insert s => rfl
  | update s => simp [map, UpdateOf.map]
  | delete s => simp [map, DeleteOf.map, Join.map_map, Function.comp_def]
  | truncate table => rfl

/-- A statement is mapped by what happens to its conditions. -/
theorem map_congr {f g : γ → δ} {s : StatementOf γ} (h : ∀ c ∈ s.conditions, f c = g c) :
    s.map f = s.map g := by
  cases s with
  | select s => rw [map, map, SelectOf.map_congr h]
  | insert s => rfl
  | update s =>
    have hfilter : s.filter?.map f = s.filter?.map g :=
      Option.map_congr fun c hc => h c (Option.mem_toList.2 hc)
    rw [map, map, UpdateOf.map, UpdateOf.map, hfilter]
  | delete s =>
    simp only [conditions, List.mem_append, List.mem_map, Option.mem_toList] at h
    have hjoins : s.joins.map (Join.map f) = s.joins.map (Join.map g) := by
      refine List.map_congr_left fun j hj => ?_
      rw [Join.map, Join.map, h j.on (.inl ⟨j, hj, rfl⟩)]
    have hfilter : s.filter?.map f = s.filter?.map g :=
      Option.map_congr fun c hc => h c (.inr hc)
    rw [map, map, DeleteOf.map, DeleteOf.map, hjoins, hfilter]
  | truncate table => rfl

end StatementOf

namespace Predicate

theorem map_map (g : δ → ε) (f : γ → δ) (p : Predicate γ) : (p.map f).map g = p.map (g ∘ f) := by
  cases p <;> simp [map, StatementOf.map_map]

/-- A level is mapped by what happens to the conditions directly below it. -/
theorem map_congr {f g : γ → δ} {p : Predicate γ} (h : ∀ c ∈ p.children, f c = g c) :
    p.map f = p.map g := by
  cases p with
  | inQuery expr query negated => rw [map, map, StatementOf.map_congr h]
  | existsQuery query negated => rw [map, map, StatementOf.map_congr h]
  | and left right => simp_all [map, children]
  | or left right => simp_all [map, children]
  | not inner => simp_all [map, children]
  | _ => rfl

theorem hasSubqueryWith_map (hasSubquery : δ → Bool) (f : γ → δ) (p : Predicate γ) :
    (p.map f).hasSubqueryWith hasSubquery = p.hasSubqueryWith (hasSubquery ∘ f) := by
  cases p <;> rfl

end Predicate

namespace Condition

variable {ρ σ : Type}

/-- A function after a fold is a fold, if it carries one step over to the other. -/
theorem fold_fusion {step : Predicate ρ → ρ} {step' : Predicate σ → σ} (h : ρ → σ)
    (hstep : ∀ p, h (step p) = step' (p.map h)) (c : Condition) :
    h (c.fold step) = c.fold step' := by
  -- the law of mapping twice moves the function below the level, where the hypothesis applies
  induction c using Condition.induction with
  | h p ih =>
    calc h ((Condition.of p).fold step)
      _ = h (step (p.map (fold step))) := by rw [fold_of]
      _ = step' (p.map (h ∘ fold step)) := by rw [hstep, Predicate.map_map]
      _ = step' (p.map (fold step')) := congrArg step' (Predicate.map_congr ih)
      _ = (Condition.of p).fold step' := by rw [fold_of]

end Condition

end TypedSql
