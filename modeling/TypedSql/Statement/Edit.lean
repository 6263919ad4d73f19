import TypedSql.Statement.Condition
/-!
# Editing templates

Statements as templates that are filled in edit by edit, in place. Edits of a selection concern the
last part of its chain. A condition is set once, a limit is positive, and a changed table is not
listed among the tables that its update reads; an edit that would break this fails.

## Main definitions

- `Edit`: the edits.
- `Setter`: a change in place.
- `SelectOf.current`, `SelectOf.modifyCurrent`: the last part of a chain.
- `StatementOf.apply`: makes an edit in place.
- `StatementOf.edit`: the statement after an edit, or why it is refused.
-/

namespace TypedSql

variable {γ : Type}

/-- Changes of a template in place. They can be refused, and there is a template after them either
way. -/
abbrev Setter (τ : Type) := ExceptT QueryError (StateM τ)

namespace Setter

variable {τ : Type}

/-- Makes a change unless the template refuses it. -/
def guarded (refuses : τ → Bool) (error : QueryError) (change : τ → τ) : Setter τ Unit := do
  if refuses (← get) then throw error
  modify change

/-- The answer to a change, and the template after it. -/
def attempt (f : Setter τ Unit) (s : τ) : Except QueryError Unit × τ := f.run.run s

/-- The template after a change that is not refused, or else why it is; then it is lost. -/
def result (f : Setter τ Unit) (s : τ) : Except QueryError τ :=
  match f.attempt s with
  | (.ok (), s') => .ok s'
  | (.error e, _) => .error e

variable {refuses : τ → Bool} {error : QueryError} {change : τ → τ} {s : τ}

/-- A template that refuses a change is left as it was. -/
theorem attempt_guarded : (guarded refuses error change).attempt s =
    if refuses s then (.error error, s) else (.ok (), change s) := by
  show (if refuses s then throw error else modify change : Setter τ Unit).attempt s = _
  split <;> rfl

theorem attempt_modify : (modify change : Setter τ Unit).attempt s = (.ok (), change s) := rfl

theorem result_guarded : (guarded refuses error change).result s =
    if refuses s then .error error else .ok (change s) := by
  rw [result, attempt_guarded]
  cases refuses s <;> rfl

/-- A change of a part of a template is refused with the part's change. -/
theorem result_map {σ : Type} {f : Setter τ Unit} {g : Setter σ Unit} {part : τ → σ}
    (h : g.attempt (part s) = (f.attempt s).map id part) :
    g.result (part s) = (f.result s).map part := by
  rw [result, result, h]
  rcases f.attempt s with ⟨_ | _, s'⟩ <;> rfl

end Setter

namespace SelectOf

/-- A chain of one selection. -/
def ofBody (body : SelectBody γ) : SelectOf γ := { head := body }

/-- The last part of the chain. -/
def current (s : SelectOf γ) : SelectBody γ :=
  match s.unions.getLast? with
  | none => s.head
  | some (_, body) => body

/-- The chain with another last part. -/
def withCurrent (s : SelectOf γ) (body : SelectBody γ) : SelectOf γ :=
  match s.unions.getLast? with
  | none => { s with head := body }
  | some (operator, _) => { s with unions := s.unions.dropLast ++ [(operator, body)] }

/-- Edits the last part of the chain. -/
def modifyCurrent (f : SelectBody γ → SelectBody γ) (s : SelectOf γ) : SelectOf γ :=
  s.withCurrent (f s.current)

/-- Sets the table to select from. -/
def setSource (table : Table) : SelectOf γ → SelectOf γ :=
  modifyCurrent fun b => { b with source? := some table }

/-- Drops repeated rows. -/
def setDistinct : SelectOf γ → SelectOf γ := modifyCurrent fun b => { b with distinct := true }

/-- Sets the condition on rows, once. -/
def setFilter (c : γ) : Setter (SelectOf γ) Unit :=
  .guarded (·.current.filter?.isSome) .whereAlreadySet
    (modifyCurrent fun b => { b with filter? := some c })

/-- Sets the condition on groups, once. -/
def setHaving (c : γ) : Setter (SelectOf γ) Unit :=
  .guarded (·.current.having?.isSome) .havingAlreadySet
    (modifyCurrent fun b => { b with having? := some c })

/-- Limits the number of rows, to at least one. -/
def setTop (n : Nat) : Setter (SelectOf γ) Unit :=
  .guarded (fun _ => n = 0) .invalidTop (modifyCurrent fun b => { b with top? := some n })

/-- Adds a join. -/
def addJoin (kind : JoinKind) (table : Table) (on : γ) : SelectOf γ → SelectOf γ :=
  modifyCurrent fun b => { b with joins := b.joins ++ [⟨kind, table, on⟩] }

/-- Adds a field. -/
def addField (e : Expr) : SelectOf γ → SelectOf γ :=
  modifyCurrent fun b => { b with fields := b.fields ++ [e] }

/-- Adds a term to group by. -/
def addGroupBy (e : Expr) : SelectOf γ → SelectOf γ :=
  modifyCurrent fun b => { b with groupBy := b.groupBy ++ [e] }

/-- Adds a hint for the table that is selected from. -/
def addHint (hint : TableHint) : SelectOf γ → SelectOf γ :=
  modifyCurrent fun b => { b with hints := b.hints ++ [hint] }

/-- Starts another part of the chain. -/
def addUnion (operator : SetOperator) (body : SelectBody γ) (s : SelectOf γ) : SelectOf γ :=
  { s with unions := s.unions ++ [(operator, body)] }

end SelectOf

namespace UpdateOf

/-- Adds a table to read from, which must not be the one that is changed. -/
def addSource (table : Table) : Setter (UpdateOf γ) Unit :=
  .guarded (table.sameInstance ·.table) (.updateTableInFrom table.name)
    fun s => { s with sources := s.sources ++ [table] }

/-- Sets the condition on rows, once. -/
def setFilter (c : γ) : Setter (UpdateOf γ) Unit :=
  .guarded (·.filter?.isSome) .whereAlreadySet fun s => { s with filter? := some c }

end UpdateOf

/-- Sets the condition on rows, once. -/
def DeleteOf.setFilter (c : γ) : Setter (DeleteOf γ) Unit :=
  .guarded (·.filter?.isSome) .whereAlreadySet fun s => { s with filter? := some c }

/-- An edit of a template. -/
inductive Edit (γ : Type) where
  | distinct
  | top (n : Nat)
  | source (table : Table)
  | hint (hint : TableHint)
  | join (kind : JoinKind) (table : Table) (on : γ)
  | filter (c : γ)
  /-- The decision for no condition. -/
  | noFilter
  | groupBy (e : Expr)
  | having (c : γ)
  | union (operator : SetOperator) (fields : List Expr)
  | orderBy (term : OrderTerm)
  | lock (lock : RowLock)
  | option (option : QueryOption)
  | field (e : Expr)
  | assign (a : Assignment)
  | returning (fields : List Expr)

/-- Makes an edit of a selection. Edits of other statements change nothing. -/
def SelectOf.apply : Edit γ → Setter (SelectOf γ) Unit
  | .distinct => modify setDistinct
  | .top n => setTop n
  | .source table => modify (setSource table)
  | .hint hint => modify (addHint hint)
  | .join kind table on => modify (addJoin kind table on)
  | .filter c => setFilter c
  | .groupBy e => modify (addGroupBy e)
  | .having c => setHaving c
  | .union operator fields => modify (addUnion operator { fields })
  | .orderBy term => modify fun s => { s with orderBy := s.orderBy ++ [term] }
  | .lock lock => modify fun s => { s with lock? := some lock }
  | .option option => modify fun s => { s with options := s.options ++ [option] }
  | .field e => modify (addField e)
  | _ => pure ()

/-- The new row after an edit. -/
def InsertTemplate.edit (s : InsertTemplate) : Edit γ → InsertTemplate
  | .assign a => { s with assignments := s.assignments ++ [a] }
  | .returning fields => { s with returning := fields }
  | _ => s

/-- Makes an edit of a change of rows. -/
def UpdateOf.apply : Edit γ → Setter (UpdateOf γ) Unit
  | .assign a => modify fun s => { s with assignments := s.assignments ++ [a] }
  | .source table => addSource table
  | .filter c => setFilter c
  | .returning fields => modify fun s => { s with returning := fields }
  | _ => pure ()

/-- Makes an edit of a removal of rows. Its joins drop rows without a partner. -/
def DeleteOf.apply : Edit γ → Setter (DeleteOf γ) Unit
  | .join _ table on => modify fun s => { s with joins := s.joins ++ [⟨.inner, table, on⟩] }
  | .filter c => setFilter c
  | .returning fields => modify fun s => { s with returning := fields }
  | _ => pure ()

/-- Makes an edit. One that the kind of statement does not have changes nothing. -/
def StatementOf.apply (e : Edit γ) : Setter (StatementOf γ) Unit := ExceptT.mk fun
  | .select s => ((SelectOf.apply e).attempt s).map id .select
  | .insert s => (.ok (), .insert (s.edit e))
  | .update s => ((UpdateOf.apply e).attempt s).map id .update
  | .delete s => ((DeleteOf.apply e).attempt s).map id .delete
  | .truncate table => (.ok (), .truncate table)

/-- The selection after an edit. -/
def SelectOf.edit (s : SelectOf γ) (e : Edit γ) : Except QueryError (SelectOf γ) :=
  Setter.result (SelectOf.apply e) s

/-- The change of rows after an edit. -/
def UpdateOf.edit (s : UpdateOf γ) (e : Edit γ) : Except QueryError (UpdateOf γ) :=
  Setter.result (UpdateOf.apply e) s

/-- The removal of rows after an edit. -/
def DeleteOf.edit (s : DeleteOf γ) (e : Edit γ) : Except QueryError (DeleteOf γ) :=
  Setter.result (DeleteOf.apply e) s

/-- The statement after an edit. -/
def StatementOf.edit (s : StatementOf γ) (e : Edit γ) : Except QueryError (StatementOf γ) :=
  Setter.result (StatementOf.apply e) s

/-! ### The edits that can be refused -/

section Refusals

variable (c : γ)

@[simp]
theorem SelectOf.edit_top (s : SelectOf γ) (n : Nat) : s.edit (.top n) =
    if n = 0 then .error .invalidTop
    else .ok (s.modifyCurrent fun b => { b with top? := some n }) := by
  rw [edit, apply, setTop, Setter.result_guarded]
  simp

@[simp]
theorem SelectOf.edit_filter (s : SelectOf γ) : s.edit (.filter c) =
    if s.current.filter?.isSome then .error .whereAlreadySet
    else .ok (s.modifyCurrent fun b => { b with filter? := some c }) :=
  Setter.result_guarded

@[simp]
theorem SelectOf.edit_having (s : SelectOf γ) : s.edit (.having c) =
    if s.current.having?.isSome then .error .havingAlreadySet
    else .ok (s.modifyCurrent fun b => { b with having? := some c }) :=
  Setter.result_guarded

@[simp]
theorem UpdateOf.edit_source (s : UpdateOf γ) (table : Table) : s.edit (.source table) =
    if table.sameInstance s.table then .error (.updateTableInFrom table.name)
    else .ok { s with sources := s.sources ++ [table] } :=
  Setter.result_guarded

@[simp]
theorem UpdateOf.edit_filter (s : UpdateOf γ) : s.edit (.filter c) =
    if s.filter?.isSome then .error .whereAlreadySet else .ok { s with filter? := some c } :=
  Setter.result_guarded

@[simp]
theorem DeleteOf.edit_filter (s : DeleteOf γ) : s.edit (.filter c) =
    if s.filter?.isSome then .error .whereAlreadySet else .ok { s with filter? := some c } :=
  Setter.result_guarded

end Refusals

/-! ### Edits by the kind of statement -/

namespace StatementOf

variable (e : Edit γ)

@[simp]
theorem edit_select (s : SelectOf γ) : (select s).edit e = (s.edit e).map select :=
  Setter.result_map rfl

@[simp]
theorem edit_insert (s : InsertTemplate) :
    (insert s : StatementOf γ).edit e = .ok (insert (s.edit e)) := rfl

@[simp]
theorem edit_update (s : UpdateOf γ) : (update s).edit e = (s.edit e).map update :=
  Setter.result_map rfl

@[simp]
theorem edit_delete (s : DeleteOf γ) : (delete s).edit e = (s.edit e).map delete :=
  Setter.result_map rfl

end StatementOf

end TypedSql
