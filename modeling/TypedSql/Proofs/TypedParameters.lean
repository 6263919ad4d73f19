import TypedSql.Proofs.BuilderStages
import TypedSql.Proofs.OpenSlots
import TypedSql.Proofs.RowAlignment
import TypedSql.Proofs.WireRoundTrip
/-!
# The types of parameters

A parameter is declared with a type and has a value, and the two come to it on separate ways: from
the template, or the one from the template and the other from a getter. A driver takes the type of
a `NULL` from the declaration and any other type from the value. The two agree for statements that
are built from typed operands and with the parameters of one set, whose getters are typed too.

## Main definitions

- `Value.HasType`: the value is `NULL` or belongs to the type.
- `TypedGetter`, `TypedParams`: registrations on a set, and the parameters handed out for them.
- `Expr.IsTyped`, `Assignment.IsTyped`, `Condition.IsTyped`, `StatementOf.IsTyped`: templates that
  are built from typed operands, edit by edit, with statements nested in them that are built so.
- `Binding.IsTyped`: a value of its declared type, or a slot of a parameter that was handed out.

## Main statements

- `TypedParams.isConsistent_after`: any registrations leave each parameter with values of its type.
- `Builder.isTyped_of_calls`: typed calls make a builder's statement a typed one.
- `StatementOf.IsTyped.leaves`: a typed statement has typed leaves only.
- `typed_statements_have_typed_parameters`: so its parameters have values of their types.
- `Parameter.wireType_eq_of_hasType`: such parameters are sent with the types that `NULL` is.

## Design notes

The types of the operands that meet in an expression or an assignment need not agree here, so there
are more typed templates than a host language with types lets one write.
-/

namespace TypedSql

/-- The value is `NULL` or belongs to the type. -/
def Value.HasType (v : Value) (type : SqlType) : Prop := v = .null ∨ v.sqlType? = some type

theorem ColumnType.hasType_toValue (t : ColumnType) (x : t.Carrier) :
    (t.toValue x).HasType t.sqlType :=
  .inr (t.sqlType?_toValue x)

/-- A parameter whose value has the declared type is sent with the type of a `NULL` that is declared
so. -/
theorem Parameter.wireType_eq_of_hasType {p : Parameter} (h : p.value.HasType p.type) :
    p.wireType = p.type.nullType.wireType := by
  obtain hnull | htype := h
  · rw [wireType, bound, hnull]
    rfl
  · exact wireType_eq_of_sqlType? htype

section Registering

variable {α : Type}

/-- A getter for a slot that always has a value, or for one that may be `NULL`. -/
inductive TypedGetter (α : Type) where
  | always (type : ColumnType) (getter : α → type.Carrier)
  | nullable (type : ColumnType) (getter : α → Option type.Carrier)

namespace TypedGetter

def register : TypedGetter α → PreparedParams α → Param × PreparedParams α
  | always type getter, params => params.add type getter
  | nullable type getter, params => params.addNullable type getter

/-- What is registered is found in each argument with the type of the parameter. -/
theorem exists_register_eq (g : TypedGetter α) (params : PreparedParams α) :
    ∃ type getter, g.register params = params.push type getter ∧
      ∀ a, (getter a).HasType type.sqlType := by
  cases g with
  | always type getter => exact ⟨type, _, rfl, fun a => type.hasType_toValue _⟩
  | nullable type getter =>
    refine ⟨type, _, rfl, fun a => ?_⟩
    cases getter a with
    | none => exact .inl rfl
    | some x => exact type.hasType_toValue x

end TypedGetter

/-- A set, and the parameters that it handed out so far. -/
structure TypedParams (α : Type) where
  set : PreparedParams α := {}
  issued : List Param := []

namespace TypedParams

def register (ps : TypedParams α) (g : TypedGetter α) : TypedParams α :=
  let (p, set) := g.register ps.set
  ⟨set, ps.issued ++ [p]⟩

/-- The set after registrations in the order of the list. -/
def after (gs : List (TypedGetter α)) : TypedParams α := gs.foldl register {}

/-- In each argument, each parameter that was handed out finds a value of its type. -/
def IsConsistent (ps : TypedParams α) : Prop :=
  ∀ p ∈ ps.issued, ∀ a, ∃ v, (ps.set.values a)[p.index]? = some v ∧ v.HasType p.type.sqlType

theorem IsConsistent.register {ps : TypedParams α} (h : ps.IsConsistent) (g : TypedGetter α) :
    (ps.register g).IsConsistent := by
  obtain ⟨type, getter, hregister, htype⟩ := g.exists_register_eq ps.set
  intro p hp a
  simp only [TypedParams.register, hregister] at hp ⊢
  have hvalues : (ps.set.push type getter).2.values a = ps.set.values a ++ [getter a] := by
    simp [PreparedParams.push, PreparedParams.values]
  rw [hvalues]
  rcases List.mem_append.1 hp with hp | hp
  · -- a parameter from before still finds its value
    obtain ⟨v, hv, hvtype⟩ := h p hp a
    obtain ⟨hindex, -⟩ := List.getElem?_eq_some_iff.1 hv
    exact ⟨v, by rw [List.getElem?_append_left hindex, hv], hvtype⟩
  · obtain rfl := List.mem_singleton.1 hp
    refine ⟨getter a, ?_, htype a⟩
    have hlength : (ps.set.values a).length = ps.set.getters.length := List.length_map _
    show (ps.set.values a ++ [getter a])[ps.set.getters.length]? = some (getter a)
    rw [← hlength, List.getElem?_concat_length]

theorem isConsistent_after (gs : List (TypedGetter α)) : (after gs).IsConsistent := by
  have hstart : ({} : TypedParams α).IsConsistent := by
    intro p hp
    cases hp
  suffices hrun : ∀ ps : TypedParams α, ps.IsConsistent → (gs.foldl register ps).IsConsistent
    from hrun {} hstart
  induction gs with
  | nil => exact fun ps h => h
  | cons g rest ih => exact fun ps h => ih (ps.register g) (h.register g)

end TypedParams

end Registering

section Clauses

variable {γ : Type}

/-- The expressions of a level that are not in a nested statement. -/
def Predicate.ownExprs : Predicate γ → List Expr
  | compare _ left right => [left, right]
  | between expr low high _ => [expr, low, high]
  | inList expr items _ => expr :: items
  | inQuery expr _ _ => [expr]
  | isNull expr _ => [expr]
  | like _ expr pattern => [expr, pattern]
  | _ => []

/-- The conditions that a level connects. -/
def Predicate.connected : Predicate γ → List γ
  | and left right => [left, right]
  | or left right => [left, right]
  | not inner => [inner]
  | _ => []

namespace Edit

/-- The expressions that an edit brings in. -/
def exprs : Edit γ → List Expr
  | groupBy e => [e]
  | union _ fields => fields
  | orderBy term => [term.expr]
  | field e => [e]
  | returning fields => fields
  | _ => []

/-- The assignment that an edit adds. -/
def assignment? : Edit γ → Option Assignment
  | assign a => some a
  | _ => none

/-- The condition that an edit brings in. -/
def condition? : Edit γ → Option γ
  | join _ _ on => some on
  | filter c => some c
  | having c => some c
  | _ => none

/-- The leaves that an edit brings in, given those of its condition. -/
def leavesWith (f : γ → List Binding) (e : Edit γ) : List Binding :=
  e.exprs.flatMap Expr.leaves ++ leavesOfAssignments e.assignment?.toList
    ++ e.condition?.toList.flatMap f

end Edit

end Clauses

section Typing

variable (ps : List Param)

/-- An expression that is built from columns, values of column types, parameters that were handed
out, and text that is taken over as it is. -/
inductive Expr.IsTyped : Expr → Prop
  | column (c : Column) : IsTyped (.column c)
  | value (type : ColumnType) (x : type.Carrier) : IsTyped (type.operand x)
  | param {p : Param} (hp : p ∈ ps) : IsTyped p.operand
  | call (function : SqlFunction) {args : List Expr} (hargs : ∀ e ∈ args, IsTyped e) :
    IsTyped (.call function args)
  | arithmetic (op : ArithmeticOp) {left right : Expr} (hleft : IsTyped left)
    (hright : IsTyped right) : IsTyped (.arithmetic op left right)
  | raw (sql : String) : IsTyped (.raw sql)

/-- A column is set to an operand, to `NULL`, or to a value of its type if there is one. -/
inductive Assignment.IsTyped : Assignment → Prop
  | set (column : Column) {e : Expr} (he : e.IsTyped ps) : IsTyped ⟨column, e⟩
  | setNull (column : Column) : IsTyped (.null column)
  | setOption {column : Column} {type : ColumnType} (hcolumn : column.type = type.sqlType)
    (x? : Option type.Carrier) : IsTyped (.optional column (x?.elim .null type.toValue))

/-- The selector of a builder, if it begins with one. -/
def BuilderStart.selector : BuilderStart → List Field
  | select selector => selector
  | _ => []

mutual

/-- A condition whose levels connect typed expressions, statements and conditions. -/
inductive Condition.IsTyped : Condition → Prop
  | of {p : Predicate Condition} (hexprs : ∀ e ∈ p.ownExprs, e.IsTyped ps)
    (hquery : ∀ s ∈ p.query?, StatementOf.IsTyped s)
    (hconnected : ∀ c ∈ p.connected, Condition.IsTyped c) : Condition.IsTyped (.of p)

/-- An edit that brings in typed expressions, assignments and conditions. -/
inductive Edit.IsTyped : Edit Condition → Prop
  | of {e : Edit Condition} (hexprs : ∀ x ∈ e.exprs, x.IsTyped ps)
    (hassignment : ∀ a ∈ e.assignment?, a.IsTyped ps)
    (hcondition : ∀ c ∈ e.condition?, Condition.IsTyped c) : Edit.IsTyped e

/-- A statement that is begun and edited with what is typed. -/
inductive StatementOf.IsTyped : Statement → Prop
  | start (start : BuilderStart) (hselector : ∀ f ∈ start.selector, f.expr.IsTyped ps) :
    StatementOf.IsTyped start.builder.statement
  | edit {s s' : Statement} {e : Edit Condition} (hs : StatementOf.IsTyped s)
    (he : Edit.IsTyped e) (hedit : s.edit e = .ok s') : StatementOf.IsTyped s'

end

/-- A value of its declared type, or the slot of a parameter that was handed out. -/
def Binding.IsTyped : Binding → Prop
  | fixed type v => v.HasType type
  | slot index type => ∃ p ∈ ps, p.index = index ∧ p.type.sqlType = type

end Typing

section Building

variable {ps : List Param}

/-- The edit that a call to a builder makes. -/
def BuilderCall.toEdit : BuilderCall → Edit Condition
  | edit e => e
  | returning selector => .returning (collectFields selector)

theorem Builder.isTyped_of_edit? {b b' : Builder} {e : Edit Condition}
    (h : b.statement.IsTyped ps) (he : e.IsTyped ps) (hedit : b.edit? e = some (.ok b')) :
    b'.statement.IsTyped ps := by
  obtain ⟨stage, -, hresult⟩ := Option.map_eq_some_iff.1 hedit
  cases hs : b.statement.edit e with
  | error error =>
    rw [hs] at hresult
    cases hresult
  | ok s =>
    rw [hs] at hresult
    cases hresult
    exact .edit h he hs

/-- Typed calls make a builder's statement a typed one, if its stages let them follow. -/
theorem Builder.isTyped_of_calls {b b' : Builder} {calls : List BuilderCall}
    (h : b.statement.IsTyped ps) (hcalls : ∀ c ∈ calls, c.toEdit.IsTyped ps)
    (hresult : b.calls? calls = some (.ok b')) : b'.statement.IsTyped ps := by
  induction calls generalizing b with
  | nil =>
    cases hresult
    exact h
  | cons c rest ih =>
    obtain ⟨hc, hrest⟩ := List.forall_mem_cons.1 hcalls
    rw [calls?] at hresult
    split at hresult
    · cases hresult
    · cases hresult
    · rename_i b₁ hcall
      refine ih ?_ hrest hresult
      cases c with
      | edit e => exact isTyped_of_edit? h hc hcall
      | returning selector =>
        exact isTyped_of_edit? (b := { b with selector? := some selector }) h hc hcall

end Building

section Leaves

variable {γ : Type} {f : γ → List Binding} {Q : Binding → Prop}

theorem Predicate.forall_mem_leavesWith_of_parts {p : Predicate γ}
    (hexprs : ∀ e ∈ p.ownExprs, ∀ b ∈ e.leaves, Q b)
    (hquery : ∀ s ∈ p.query?, ∀ b ∈ s.leavesWith f, Q b)
    (hconnected : ∀ c ∈ p.connected, ∀ b ∈ f c, Q b) : ∀ b ∈ p.leavesWith f, Q b := by
  rw [← List.forall_mem_flatMap] at hexprs hconnected
  cases p with
  | compare op left right => simpa [ownExprs, leavesWith] using hexprs
  | and left right => simpa [connected, leavesWith] using hconnected
  | or left right => simpa [connected, leavesWith] using hconnected
  | not inner => simpa [connected, leavesWith] using hconnected
  | between expr low high negated => simpa [ownExprs, leavesWith] using hexprs
  | inList expr items negated => simpa [ownExprs, leavesWith] using hexprs
  | inQuery expr query negated =>
    rw [leavesWith, List.forall_mem_append]
    exact ⟨by simpa [ownExprs] using hexprs, hquery query rfl⟩
  | existsQuery query negated => exact hquery query rfl
  | isNull expr negated => simpa [ownExprs, leavesWith] using hexprs
  | like kind expr pattern => simpa [ownExprs, leavesWith] using hexprs
  | raw sql => simp [leavesWith]

section Editing

variable {s s' : SelectOf γ}

theorem SelectOf.orderBy_modifyCurrent (s : SelectOf γ) (g : SelectBody γ → SelectBody γ) :
    (s.modifyCurrent g).orderBy = s.orderBy := by
  cases hunions : s.unions.getLast? <;> simp [modifyCurrent, withCurrent, hunions]

/-- What holds of the leaves of a chain still does if it does for the part that was edited. -/
theorem SelectOf.forall_mem_leavesWith_modifyCurrent {g : SelectBody γ → SelectBody γ}
    (hs : ∀ b ∈ s.leavesWith f, Q b)
    (hg : (∀ b ∈ s.current.leavesWith f, Q b) → ∀ b ∈ (g s.current).leavesWith f, Q b) :
    ∀ b ∈ (s.modifyCurrent g).leavesWith f, Q b := by
  rw [leavesWith, List.forall_mem_append, List.forall_mem_flatMap] at hs ⊢
  obtain ⟨hbodies, horder⟩ := hs
  rw [s.bodies_eq, List.forall_mem_append, List.forall_mem_singleton] at hbodies
  rw [s.bodies_modifyCurrent, s.orderBy_modifyCurrent, List.forall_mem_append,
    List.forall_mem_singleton]
  exact ⟨⟨hbodies.1, hg hbodies.2⟩, horder⟩

theorem exists_of_map_eq_ok {ε σ τ : Type} {x : Except ε σ} {k : σ → τ} {t : τ}
    (h : x.map k = .ok t) : ∃ y, x = .ok y ∧ k y = t := by
  cases x with
  | error e => cases h
  | ok y => exact ⟨y, rfl, by cases h; rfl⟩

theorem SelectBody.forall_mem_leavesWith_iff {body : SelectBody γ} :
    (∀ b ∈ body.leavesWith f, Q b) ↔
      (∀ e ∈ body.fields, ∀ b ∈ e.leaves, Q b) ∧ (∀ j ∈ body.joins, ∀ b ∈ f j.on, Q b) ∧
        (∀ c ∈ body.filter?, ∀ b ∈ f c, Q b) ∧ (∀ e ∈ body.groupBy, ∀ b ∈ e.leaves, Q b) ∧
        ∀ c ∈ body.having?, ∀ b ∈ f c, Q b := by
  simp only [leavesWith, List.forall_mem_append, List.forall_mem_flatMap, List.forall_mem_map,
    Option.mem_toList, Option.mem_def, and_assoc]

theorem Edit.forall_mem_leavesWith_iff {e : Edit γ} :
    (∀ b ∈ e.leavesWith f, Q b) ↔
      (∀ x ∈ e.exprs, ∀ b ∈ x.leaves, Q b) ∧ (∀ a ∈ e.assignment?, ∀ b ∈ a.value.leaves, Q b) ∧
        ∀ c ∈ e.condition?, ∀ b ∈ f c, Q b := by
  simp only [leavesWith, leavesOfAssignments, List.forall_mem_append, List.forall_mem_flatMap,
    Option.mem_toList, Option.mem_def, and_assoc]

/-- An edit of a chain brings in the leaves of what it is made with, and no others. -/
theorem SelectOf.forall_mem_leavesWith_edit {e : Edit γ} (hs : ∀ b ∈ s.leavesWith f, Q b)
    (he : ∀ b ∈ e.leavesWith f, Q b) (hedit : s.edit e = .ok s') :
    ∀ b ∈ s'.leavesWith f, Q b := by
  obtain ⟨hexprs, -, hcondition⟩ := Edit.forall_mem_leavesWith_iff.1 he
  have hpart {g : SelectBody γ → SelectBody γ} := forall_mem_leavesWith_modifyCurrent (g := g) hs
  simp only [SelectBody.forall_mem_leavesWith_iff] at hpart
  cases e with
  | distinct | source table | hint hint =>
    cases hedit
    exact hpart id
  | top n =>
    rw [edit_top] at hedit
    split at hedit <;> cases hedit
    exact hpart id
  | join kind table on =>
    cases hedit
    apply hpart
    rintro ⟨hfields, hjoins, hrest⟩
    refine ⟨hfields, ?_, hrest⟩
    rw [List.forall_mem_append, List.forall_mem_singleton]
    exact ⟨hjoins, hcondition on rfl⟩
  | filter c =>
    rw [edit_filter] at hedit
    split at hedit <;> cases hedit
    apply hpart
    rintro ⟨hfields, hjoins, -, hrest⟩
    exact ⟨hfields, hjoins, hcondition, hrest⟩
  | groupBy e =>
    cases hedit
    apply hpart
    rintro ⟨hfields, hjoins, hfilter, hgroups, hhaving⟩
    refine ⟨hfields, hjoins, hfilter, ?_, hhaving⟩
    rw [List.forall_mem_append]
    exact ⟨hgroups, hexprs⟩
  | having c =>
    rw [edit_having] at hedit
    split at hedit <;> cases hedit
    apply hpart
    rintro ⟨hfields, hjoins, hfilter, hgroups, -⟩
    exact ⟨hfields, hjoins, hfilter, hgroups, hcondition⟩
  | field e =>
    cases hedit
    apply hpart
    rintro ⟨hfields, hrest⟩
    refine ⟨?_, hrest⟩
    rw [List.forall_mem_append]
    exact ⟨hfields, hexprs⟩
  | union operator fields =>
    cases hedit
    rw [leavesWith, List.forall_mem_append, List.forall_mem_flatMap] at hs ⊢
    rw [s.bodies_addUnion, List.forall_mem_append, List.forall_mem_singleton,
      SelectBody.forall_mem_leavesWith_iff]
    exact ⟨⟨hs.1, hexprs, by simp, by simp, by simp, by simp⟩, hs.2⟩
  | orderBy term =>
    cases hedit
    rw [leavesWith, List.forall_mem_append] at hs ⊢
    refine ⟨hs.1, ?_⟩
    rw [List.flatMap_append, List.forall_mem_append, List.flatMap_singleton]
    exact ⟨hs.2, hexprs term.expr List.mem_cons_self⟩
  | lock lock | option option | noFilter | assign a | returning fields =>
    cases hedit
    exact hs

theorem InsertTemplate.forall_mem_leaves_edit {s : InsertTemplate} {e : Edit γ}
    (hs : ∀ b ∈ s.leaves, Q b) (he : ∀ b ∈ e.leavesWith f, Q b) :
    ∀ b ∈ (s.edit e).leaves, Q b := by
  obtain ⟨hexprs, hassignment, -⟩ := Edit.forall_mem_leavesWith_iff.1 he
  simp only [leaves, leavesOfAssignments, List.forall_mem_append, List.forall_mem_flatMap] at hs ⊢
  cases e with
  | assign a =>
    refine ⟨?_, hs.2⟩
    rw [edit, List.forall_mem_append, List.forall_mem_singleton]
    exact ⟨hs.1, hassignment a rfl⟩
  | returning fields => exact ⟨hs.1, hexprs⟩
  | _ => exact hs

theorem UpdateOf.forall_mem_leavesWith_edit {s s' : UpdateOf γ} {e : Edit γ}
    (hs : ∀ b ∈ s.leavesWith f, Q b) (he : ∀ b ∈ e.leavesWith f, Q b) (hedit : s.edit e = .ok s') :
    ∀ b ∈ s'.leavesWith f, Q b := by
  obtain ⟨hexprs, hassignment, hcondition⟩ := Edit.forall_mem_leavesWith_iff.1 he
  simp only [leavesWith, leavesOfAssignments, List.forall_mem_append, List.forall_mem_flatMap,
    Option.mem_toList] at hs ⊢
  obtain ⟨⟨hassignments, hfilter⟩, hreturning⟩ := hs
  cases e with
  | assign a =>
    cases hedit
    refine ⟨⟨?_, hfilter⟩, hreturning⟩
    rw [List.forall_mem_append, List.forall_mem_singleton]
    exact ⟨hassignments, hassignment a rfl⟩
  | source table =>
    rw [edit_source] at hedit
    split at hedit <;> cases hedit
    exact ⟨⟨hassignments, hfilter⟩, hreturning⟩
  | filter c =>
    rw [edit_filter] at hedit
    split at hedit <;> cases hedit
    exact ⟨⟨hassignments, hcondition⟩, hreturning⟩
  | returning fields =>
    cases hedit
    exact ⟨⟨hassignments, hfilter⟩, hexprs⟩
  | _ =>
    cases hedit
    exact ⟨⟨hassignments, hfilter⟩, hreturning⟩

theorem DeleteOf.forall_mem_leavesWith_edit {s s' : DeleteOf γ} {e : Edit γ}
    (hs : ∀ b ∈ s.leavesWith f, Q b) (he : ∀ b ∈ e.leavesWith f, Q b) (hedit : s.edit e = .ok s') :
    ∀ b ∈ s'.leavesWith f, Q b := by
  obtain ⟨hexprs, -, hcondition⟩ := Edit.forall_mem_leavesWith_iff.1 he
  simp only [leavesWith, List.forall_mem_append, List.forall_mem_flatMap, List.forall_mem_map,
    Option.mem_toList] at hs ⊢
  obtain ⟨⟨hjoins, hfilter⟩, hreturning⟩ := hs
  cases e with
  | join kind table on =>
    cases hedit
    refine ⟨⟨?_, hfilter⟩, hreturning⟩
    rw [List.forall_mem_append, List.forall_mem_singleton]
    exact ⟨hjoins, hcondition on rfl⟩
  | filter c =>
    rw [edit_filter] at hedit
    split at hedit <;> cases hedit
    exact ⟨⟨hjoins, hcondition⟩, hreturning⟩
  | returning fields =>
    cases hedit
    exact ⟨⟨hjoins, hfilter⟩, hexprs⟩
  | _ =>
    cases hedit
    exact ⟨⟨hjoins, hfilter⟩, hreturning⟩

/-- An edit brings in the leaves of what it is made with, and no others. -/
theorem StatementOf.forall_mem_leavesWith_edit {s s' : StatementOf γ} {e : Edit γ}
    (hs : ∀ b ∈ s.leavesWith f, Q b) (he : ∀ b ∈ e.leavesWith f, Q b) (hedit : s.edit e = .ok s') :
    ∀ b ∈ s'.leavesWith f, Q b := by
  cases s with
  | select s =>
    rw [edit_select] at hedit
    obtain ⟨s', hs', rfl⟩ := exists_of_map_eq_ok hedit
    exact SelectOf.forall_mem_leavesWith_edit hs he hs'
  | insert s =>
    cases hedit
    exact InsertTemplate.forall_mem_leaves_edit hs he
  | update s =>
    rw [edit_update] at hedit
    obtain ⟨s', hs', rfl⟩ := exists_of_map_eq_ok hedit
    exact UpdateOf.forall_mem_leavesWith_edit hs he hs'
  | delete s =>
    rw [edit_delete] at hedit
    obtain ⟨s', hs', rfl⟩ := exists_of_map_eq_ok hedit
    exact DeleteOf.forall_mem_leavesWith_edit hs he hs'
  | truncate table =>
    cases hedit
    exact hs

end Editing

variable {ps : List Param}

theorem Expr.IsTyped.leaves {e : Expr} (h : e.IsTyped ps) : ∀ b ∈ e.leaves, b.IsTyped ps := by
  induction h with
  | column c => simp [Expr.leaves]
  | value type x => exact List.forall_mem_singleton.2 (type.hasType_toValue x)
  | @param p hp => exact List.forall_mem_singleton.2 ⟨p, hp, rfl, rfl⟩
  | @call function args hargs ih =>
    rw [Expr.leaves, leavesOfList_eq_flatMap]
    split
    · simp
    · rw [List.forall_mem_flatMap]
      exact ih
  | arithmetic op hleft hright ihleft ihright =>
    rw [Expr.leaves, List.forall_mem_append]
    exact ⟨ihleft, ihright⟩
  | raw sql => simp [Expr.leaves]

theorem Assignment.IsTyped.leaves {a : Assignment} (h : a.IsTyped ps) :
    ∀ b ∈ a.value.leaves, b.IsTyped ps := by
  cases h with
  | set column he => exact he.leaves
  | setNull column => exact List.forall_mem_singleton.2 (.inl rfl)
  | @setOption column type hcolumn x? =>
    refine List.forall_mem_singleton.2 ?_
    cases x? with
    | none => exact .inl rfl
    | some x =>
      show (type.toValue x).HasType column.type
      rw [hcolumn]
      exact type.hasType_toValue x

/-- A builder begins with the leaves of its selector. -/
theorem BuilderStart.leaves_builder (start : BuilderStart) :
    start.builder.statement.leaves = start.selector.flatMap fun f => f.expr.leaves := by
  cases start with
  | select selector =>
    have hfields : collectFields selector = selector.map (·.expr) := by
      rw [collectFields, Row.collect, Row.getAll_collecting]
      exact List.nil_append _
    simp [builder, Builder.select, Builder.ofTemplate, StatementOf.leaves, StatementOf.leavesWith,
      SelectOf.leavesWith, SelectOf.ofBody, SelectOf.bodies, SelectBody.leavesWith, hfields,
      BuilderStart.selector, List.flatMap_map]
  | _ => rfl

mutual

theorem Condition.IsTyped.leaves : ∀ {c : Condition}, c.IsTyped ps → ∀ b ∈ c.leaves, b.IsTyped ps
  | _, .of hexprs hquery hconnected => by
    rw [Condition.leaves_of]
    exact Predicate.forall_mem_leavesWith_of_parts (fun e he => (hexprs e he).leaves)
      (fun s hs => StatementOf.IsTyped.leaves (hquery s hs))
      (fun c hc => Condition.IsTyped.leaves (hconnected c hc))

theorem Edit.IsTyped.leaves : ∀ {e : Edit Condition}, e.IsTyped ps →
    ∀ b ∈ e.leavesWith Condition.leaves, b.IsTyped ps
  | _, .of hexprs hassignment hcondition => by
    rw [Edit.forall_mem_leavesWith_iff]
    exact ⟨fun x hx => (hexprs x hx).leaves, fun a ha => (hassignment a ha).leaves,
      fun c hc => Condition.IsTyped.leaves (hcondition c hc)⟩

theorem StatementOf.IsTyped.leaves : ∀ {s : Statement}, s.IsTyped ps →
    ∀ b ∈ s.leaves, b.IsTyped ps
  | _, .start start hselector => by
    rw [start.leaves_builder, List.forall_mem_flatMap]
    exact fun f hf => (hselector f hf).leaves
  | _, .edit hs he hedit =>
    StatementOf.forall_mem_leavesWith_edit (StatementOf.IsTyped.leaves hs)
      (Edit.IsTyped.leaves he) hedit

end

end Leaves

section Resolving

variable {α : Type} {ps : TypedParams α} {b : Binding}

/-- In each argument there is a value for a typed binding, and it has the declared type. -/
theorem Binding.IsTyped.exists_content (h : b.IsTyped ps.issued) (hps : ps.IsConsistent) (a : α) :
    b.IsBound (ps.set.values a) ∧ ∃ type v, b.content? (ps.set.values a) = some (type, v) ∧
      v.HasType type := by
  cases b with
  | fixed type v => exact ⟨trivial, type, v, rfl, h⟩
  | slot index type =>
    obtain ⟨p, hp, rfl, rfl⟩ := h
    obtain ⟨v, hv, htype⟩ := hps p hp a
    exact ⟨(List.getElem?_eq_some_iff.1 hv).1, p.type.sqlType, v, by rw [content?, hv]; rfl, htype⟩

/-- Each parameter carries what one of the bindings stands for. -/
theorem Binding.exists_content_of_resolveFrom {style : PlaceholderStyle} {position : Nat}
    {slots : List Value} {bindings : List Binding} {parameters : List Parameter}
    (h : resolveFrom style slots position bindings = .ok parameters) {p : Parameter}
    (hp : p ∈ parameters) : ∃ b ∈ bindings, b.content? slots = some p.content := by
  have hcontents := resolveFrom_content h
  have hmem : some p.content ∈ bindings.map (content? slots) := by
    rw [hcontents]
    exact List.mem_map_of_mem (List.mem_map_of_mem hp)
  exact List.mem_map.1 hmem

/-- A statement that is built from typed operands and the parameters of one set can be rendered for
every argument of the set. Each of its parameters then has a value of the type that it is declared
with, or `NULL`. -/
theorem typed_statements_have_typed_parameters (gs : List (TypedGetter α)) (a : α) (d : Dialect)
    {s : Statement} (h : s.IsTyped (TypedParams.after gs).issued) :
    ∃ sql parameters,
      s.renderWith d ((TypedParams.after gs).set.values a) = .ok (sql, parameters) ∧
        ∀ p ∈ parameters, p.value.HasType p.type := by
  have hps := TypedParams.isConsistent_after gs
  have hbindings : ∀ b ∈ (s.compile d .bind).bindings, b.IsTyped (TypedParams.after gs).issued := by
    intro b hb
    exact h.leaves b ((s.compile_bindings_perm d).mem_iff.1 hb)
  obtain ⟨parameters, hparameters⟩ := Binding.exists_resolveFrom (s.compile d .bind).style 0
    fun b hb => ((hbindings b hb).exists_content hps a).1
  refine ⟨(s.compile d .bind).sql, parameters, ?_, ?_⟩
  · rw [StatementOf.renderWith, Compiled.parameters, Binding.resolve, hparameters]
    rfl
  · intro p hp
    obtain ⟨b, hb, hcontent⟩ := Binding.exists_content_of_resolveFrom hparameters hp
    obtain ⟨-, type, v, hcontent', htype⟩ := (hbindings b hb).exists_content hps a
    rw [hcontent] at hcontent'
    cases hcontent'
    exact htype

end Resolving

section Settling

/-- A customer by its key, and a state of payments that may be missing. -/
def settlementGetters : List (TypedGetter (Int32 × Option (Fin 2))) :=
  [.always (.key "Customer" (.native .int)) fun a => ⟨a.1⟩,
    .nullable (.key "Payment" (.enumeration Postgres.paymentState)) fun a => a.2.map Key.mk]

/-- The selection of the customers with a key. -/
def customersByKey (key : Expr) : Statement :=
  let customers : Table := { schema? := none, name := "Customer", enclosed := false, id := ⟨0, 0⟩ }
  let id : Expr := .column { table := customers, name := "Id", enclosed := false, type := .int }
  .select
    { head :=
        { fields := [id]
          source? := some customers
          filter? := some (.of (.compare .eq id key)) } }

/-- The change that settles the invoices of a customer and returns the states of their payments. -/
def settlement (key state : Expr) : Statement :=
  let invoices : Table := { schema? := none, name := "Invoice", enclosed := false, id := ⟨0, 1⟩ }
  let column (name : String) (type : SqlType) : Column :=
    { table := invoices, name, enclosed := false, type }
  .update
    { table := invoices
      assignments := [.null (column "Note" .text), ⟨column "State" .tinyInt, state⟩]
      filter? :=
        some (.of (.inQuery (.column (column "CustomerId" .int)) (customersByKey key) false))
      returning := [.call .coalesce [.column (column "State" .tinyInt), state]] }

variable {ps : List Param} {key state : Expr}

theorem isTyped_customersByKey (hkey : key.IsTyped ps) : (customersByKey key).IsTyped ps := by
  let customers : Table := { schema? := none, name := "Customer", enclosed := false, id := ⟨0, 0⟩ }
  let id : Field := .column customers "Id" (.native .int)
  let c : Condition := .of (.compare .eq id.expr key)
  have hid : id.expr.IsTyped ps := .column _
  have hc : c.IsTyped ps := .of (by simp [Predicate.ownExprs, hid, hkey]) nofun nofun
  have hresult : (Builder.select [id]).calls? [.edit (.source customers), .edit (.filter c)] =
      some (.ok ⟨customersByKey key, .filtered, some [id]⟩) := rfl
  refine Builder.isTyped_of_calls (.start (.select [id]) ?_) ?_ hresult
  · exact List.forall_mem_singleton.2 hid
  · simp only [List.forall_mem_cons]
    exact ⟨.of nofun nofun nofun, .of nofun nofun (by rintro _ ⟨⟩; exact hc), nofun⟩

theorem isTyped_settlement (hkey : key.IsTyped ps) (hstate : state.IsTyped ps) :
    (settlement key state).IsTyped ps := by
  let invoices : Table := { schema? := none, name := "Invoice", enclosed := false, id := ⟨0, 1⟩ }
  let column (name : String) (type : SqlType) : Column :=
    { table := invoices, name, enclosed := false, type }
  let c : Condition :=
    .of (.inQuery (.column (column "CustomerId" .int)) (customersByKey key) false)
  let returned : Field := .coalesce (.column invoices "State" (.native .tinyInt)) state
  have hc : c.IsTyped ps := by
    refine .of (List.forall_mem_singleton.2 (.column _)) ?_ nofun
    rintro _ ⟨⟩
    exact isTyped_customersByKey hkey
  have hreturned : returned.expr.IsTyped ps :=
    .call .coalesce (List.forall_mem_cons.2 ⟨.column _, List.forall_mem_singleton.2 hstate⟩)
  have hresult : (Builder.update invoices).calls?
      [.edit (.assign (.null (column "Note" .text))),
        .edit (.assign ⟨column "State" .tinyInt, state⟩), .edit (.filter c),
        .returning [returned]] =
      some (.ok ⟨settlement key state, .returning, some [returned]⟩) := rfl
  refine Builder.isTyped_of_calls (.start (.update invoices) nofun) ?_ hresult
  simp only [List.forall_mem_cons]
  refine ⟨.of nofun ?_ nofun, .of nofun ?_ nofun, .of nofun nofun ?_, .of ?_ nofun nofun, nofun⟩
  · rintro _ ⟨⟩
    exact .setNull _
  · rintro _ ⟨⟩
    exact .set _ hstate
  · rintro _ ⟨⟩
    exact hc
  · exact List.forall_mem_singleton.2 hreturned

/-- The state is bound where it is set and where it is returned, and the customer in the nested
selection. Each has the type of its getter, though the state is missing. -/
theorem parameters_of_settlement :
    let ps := TypedParams.after settlementGetters
    let customer : Param := ⟨0, .key "Customer" (.native .int)⟩
    let state : Param := ⟨1, .key "Payment" (.enumeration Postgres.paymentState)⟩
    ps.issued = [customer, state] ∧ ∃ sql parameters,
      (settlement customer.operand state.operand).renderWith .postgres (ps.set.values (7, none)) =
          .ok (sql, parameters) ∧
        ∀ p ∈ parameters, p.value.HasType p.type := by
  intro ps customer state
  have hissued : ps.issued = [customer, state] := rfl
  have hcustomer : customer ∈ ps.issued := by simp [hissued]
  have hstate : state ∈ ps.issued := by simp [hissued]
  exact ⟨hissued, typed_statements_have_typed_parameters settlementGetters (7, none) .postgres
    (isTyped_settlement (.param hcustomer) (.param hstate))⟩

example :
    let ps := TypedParams.after settlementGetters
    (((settlement (.slot 0 .int) (.slot 1 .tinyInt)).renderWith .postgres
        (ps.set.values (7, none))).toOption.map fun r => r.2.map Parameter.content) =
      some [(.text, .null), (.tinyInt, .null), (.int, .int 7), (.tinyInt, .null)] := by
  decide +kernel

end Settling

end TypedSql
