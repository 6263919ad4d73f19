import TypedSql.Statement.Clause
/-!
# Statement templates

The shapes of the five kinds of statements, generic in what a condition is. A condition may hold
statements, so the type of conditions is the one for which the shapes close (`Condition`).

## Main definitions

- `SelectBody`, `SelectOf`, `InsertTemplate`, `UpdateOf`, `DeleteOf`, `StatementOf`: the shapes.
- `StatementOf.map`: the same statement with other conditions.
- `StatementOf.conditions`: the conditions in it, not those nested in them.
- `StatementOf.usesAliases?`: whether tables are declared with aliases.
- `StatementOf.firstSlotWith?`: the first parameter slot that building a statement looks for.
- `StatementOf.validate`: whether the statement is complete.
-/

namespace TypedSql

/-- One selection of a chain. -/
structure SelectBody (γ : Type) where
  distinct : Bool := false
  top? : Option Nat := none
  fields : List Expr
  source? : Option Table := none
  hints : List TableHint := []
  joins : List (Join γ) := []
  filter? : Option γ := none
  groupBy : List Expr := []
  having? : Option γ := none

/-- A chain of selections with what applies to the whole of it. -/
structure SelectOf (γ : Type) where
  head : SelectBody γ
  unions : List (SetOperator × SelectBody γ) := []
  orderBy : List OrderTerm := []
  lock? : Option RowLock := none
  options : List QueryOption := []

/-- A new row. -/
structure InsertTemplate where
  table : Table
  assignments : List Assignment := []
  returning : List Expr := []

/-- A change of rows. -/
structure UpdateOf (γ : Type) where
  table : Table
  assignments : List Assignment := []
  sources : List Table := []
  filter? : Option γ := none
  returning : List Expr := []

/-- A removal of rows. -/
structure DeleteOf (γ : Type) where
  table : Table
  joins : List (Join γ) := []
  filter? : Option γ := none
  returning : List Expr := []

/-- A statement. -/
inductive StatementOf (γ : Type) where
  | select (s : SelectOf γ)
  | insert (s : InsertTemplate)
  | update (s : UpdateOf γ)
  | delete (s : DeleteOf γ)
  | truncate (table : Table)

variable {γ δ : Type}

/-- The join with another condition. -/
def Join.map (f : γ → δ) (j : Join γ) : Join δ := ⟨j.kind, j.table, f j.on⟩

namespace SelectBody

/-- The selection with other conditions. -/
def map (f : γ → δ) (b : SelectBody γ) : SelectBody δ :=
  { distinct := b.distinct, top? := b.top?, fields := b.fields, source? := b.source?
    hints := b.hints, joins := b.joins.map (Join.map f), filter? := b.filter?.map f
    groupBy := b.groupBy, having? := b.having?.map f }

/-- The conditions of the selection. -/
def conditions (b : SelectBody γ) : List γ :=
  b.joins.map Join.on ++ b.filter?.toList ++ b.having?.toList

/-- Whether columns must be told apart by aliases: there are several tables, or a nested statement
brings in others. -/
def usesAliases (hasSubquery : γ → Bool) (b : SelectBody γ) : Bool :=
  !b.joins.isEmpty || b.filter?.any hasSubquery || b.having?.any hasSubquery

/-- The first parameter slot in text order. -/
def firstSlotWith? (firstSlot? : γ → Option Nat) (b : SelectBody γ) : Option Nat :=
  (b.fields.findSome? Expr.firstSlot?)
    |>.or (b.joins.findSome? fun j => firstSlot? j.on)
    |>.or (b.filter?.bind firstSlot?)
    |>.or (b.groupBy.findSome? Expr.firstSlot?)
    |>.or (b.having?.bind firstSlot?)

/-- A selection needs a table and at least one field. -/
def validate (b : SelectBody γ) : Except QueryError Unit :=
  if b.source?.isNone then .error .missingFrom
  else if b.fields.isEmpty then .error .noSelectFields
  else .ok ()

end SelectBody

namespace SelectOf

/-- The parts of the chain, each with what unites it with the one before. -/
def parts (s : SelectOf γ) : List (Option SetOperator × SelectBody γ) :=
  (none, s.head) :: s.unions.map fun (operator, body) => (some operator, body)

/-- The bodies of the chain. -/
def bodies (s : SelectOf γ) : List (SelectBody γ) := s.head :: s.unions.map Prod.snd

/-- The chain with other conditions. -/
def map (f : γ → δ) (s : SelectOf γ) : SelectOf δ :=
  { head := s.head.map f, unions := s.unions.map fun (operator, body) => (operator, body.map f)
    orderBy := s.orderBy, lock? := s.lock?, options := s.options }

/-- The conditions of all parts. -/
def conditions (s : SelectOf γ) : List γ := s.bodies.flatMap SelectBody.conditions

/-- Whether some part needs aliases; then all have them. -/
def usesAliases (hasSubquery : γ → Bool) (s : SelectOf γ) : Bool :=
  s.bodies.any (SelectBody.usesAliases hasSubquery)

/-- The first parameter slot in text order. -/
def firstSlotWith? (firstSlot? : γ → Option Nat) (s : SelectOf γ) : Option Nat :=
  (s.bodies.findSome? (SelectBody.firstSlotWith? firstSlot?))
    |>.or (s.orderBy.findSome? fun term => term.expr.firstSlot?)

/-- Each part must be complete; the first incomplete one is the error. -/
def validate (s : SelectOf γ) : Except QueryError Unit := s.bodies.forM SelectBody.validate

end SelectOf

namespace UpdateOf

/-- The update with other conditions. -/
def map (f : γ → δ) (s : UpdateOf γ) : UpdateOf δ :=
  { table := s.table, assignments := s.assignments, sources := s.sources
    filter? := s.filter?.map f, returning := s.returning }

/-- Whether columns must be told apart by aliases. -/
def usesAliases (hasSubquery : γ → Bool) (s : UpdateOf γ) : Bool :=
  !s.sources.isEmpty || s.filter?.any hasSubquery

end UpdateOf

namespace DeleteOf

/-- The removal with other conditions. -/
def map (f : γ → δ) (s : DeleteOf γ) : DeleteOf δ :=
  { table := s.table, joins := s.joins.map (Join.map f), filter? := s.filter?.map f
    returning := s.returning }

/-- Whether columns must be told apart by aliases. -/
def usesAliases (hasSubquery : γ → Bool) (s : DeleteOf γ) : Bool :=
  !s.joins.isEmpty || s.filter?.any hasSubquery

end DeleteOf

/-- The first parameter slot of the new values. -/
def firstSlotOfAssignments? (assignments : List Assignment) : Option Nat :=
  assignments.findSome? fun a => a.value.firstSlot?

namespace StatementOf

/-- The statement with other conditions. -/
def map (f : γ → δ) : StatementOf γ → StatementOf δ
  | select s => .select (s.map f)
  | insert s => .insert s
  | update s => .update (s.map f)
  | delete s => .delete (s.map f)
  | truncate table => .truncate table

/-- The conditions of the statement. -/
def conditions : StatementOf γ → List γ
  | select s => s.conditions
  | insert _ => []
  | update s => s.filter?.toList
  | delete s => s.joins.map Join.on ++ s.filter?.toList
  | truncate _ => []

/-- The kind of the statement. -/
def kind : StatementOf γ → StatementKind
  | select _ => .select
  | insert _ => .insert
  | update _ => .update
  | delete _ => .delete
  | truncate _ => .truncate

/-- Whether tables are declared with aliases, for the kinds that can. -/
def usesAliases? (hasSubquery : γ → Bool) : StatementOf γ → Option Bool
  | select s => some (s.usesAliases hasSubquery)
  | insert _ => none
  | update s => some (s.usesAliases hasSubquery)
  | delete s => some (s.usesAliases hasSubquery)
  | truncate _ => none

/-- The first parameter slot that building looks for. The fields that a changing statement returns
are not looked at. -/
def firstSlotWith? (firstSlot? : γ → Option Nat) : StatementOf γ → Option Nat
  | select s => s.firstSlotWith? firstSlot?
  | insert s => firstSlotOfAssignments? s.assignments
  | update s => (firstSlotOfAssignments? s.assignments).or (s.filter?.bind firstSlot?)
  | delete s =>
    (s.joins.findSome? fun j => firstSlot? j.on).or (s.filter?.bind firstSlot?)
  | truncate _ => none

/-- A new or changed row needs at least one assignment, and a selection its parts. -/
def validate : StatementOf γ → Except QueryError Unit
  | select s => s.validate
  | insert s => if s.assignments.isEmpty then .error (.emptySetList "INSERT") else .ok ()
  | update s => if s.assignments.isEmpty then .error (.emptySetList "UPDATE") else .ok ()
  | delete _ => .ok ()
  | truncate _ => .ok ()

end StatementOf

end TypedSql
