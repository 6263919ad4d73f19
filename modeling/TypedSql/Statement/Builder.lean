import TypedSql.Statement.Query
/-!
# Statement builders

A builder lets only those edits follow that make sense at its stage, so that it can only build a
statement that has all it needs: a selection its table, a new or changed row an assignment, and a
change or a removal a decision about its condition.

## Main definitions

- `BuildStage`: how far a statement has come.
- `BuildStage.next?`: the stage after an edit, if the edit may follow.
- `Builder`: a statement at a stage; `Builder.edit?` and `Builder.build?`.
-/

namespace TypedSql

/-- How far a statement has come. The last part of a selection is without a table, with one, with a
decision on its condition, grouped, with a condition on groups, or ordered; a change of rows is
without values, with some, or with a decision on its condition. -/
inductive BuildStage where
  | initial
  | sourced
  | filtered
  | grouped
  | havingSet
  | ordered
  | noValues
  | hasValues
  | unfiltered
  | returning
deriving DecidableEq

namespace BuildStage

/-- Where a statement begins. -/
def start : StatementKind → BuildStage
  | .select => initial
  | .insert => noValues
  | .update => noValues
  | .delete => unfiltered
  | .truncate => filtered

/-- Whether groups may follow in a selection. -/
def canGroup : BuildStage → Bool
  | sourced => true
  | filtered => true
  | grouped => true
  | _ => false

/-- Whether another part may follow in a selection. -/
def canUnite : BuildStage → Bool
  | sourced => true
  | filtered => true
  | grouped => true
  | havingSet => true
  | _ => false

/-- Whether the last part of a selection has its table. -/
def isSourced (stage : BuildStage) : Bool := stage.canUnite || stage == ordered

variable {γ : Type}

/-- The stage after an edit of a selection. -/
def nextOfSelect? (stage : BuildStage) : Edit γ → Option BuildStage
  | .distinct => if stage = initial then some stage else none
  | .top _ => if stage = initial then some stage else none
  | .source _ => if stage = initial then some sourced else none
  | .hint _ => if stage = sourced then some stage else none
  | .join .. => if stage = sourced then some stage else none
  | .filter _ => if stage = sourced then some filtered else none
  | .noFilter => if stage = sourced then some filtered else none
  | .groupBy _ => if stage.canGroup then some grouped else none
  | .having _ => if stage = grouped then some havingSet else none
  | .union .. => if stage.canUnite then some initial else none
  | .orderBy _ => if stage.isSourced then some ordered else none
  | .lock _ => if stage.isSourced then some stage else none
  | .option _ => if stage.isSourced then some stage else none
  | _ => none

/-- The stage after an edit of a new row. -/
def nextOfInsert? (stage : BuildStage) : Edit γ → Option BuildStage
  | .assign _ => if stage = noValues ∨ stage = hasValues then some hasValues else none
  | .returning _ => if stage = hasValues then some returning else none
  | _ => none

/-- The stage after an edit of a change of rows. -/
def nextOfUpdate? (stage : BuildStage) : Edit γ → Option BuildStage
  | .assign _ => if stage = noValues ∨ stage = hasValues then some hasValues else none
  | .source _ => if stage = hasValues then some stage else none
  | .filter _ => if stage = hasValues then some filtered else none
  | .noFilter => if stage = hasValues then some filtered else none
  | .returning _ => if stage = filtered then some returning else none
  | _ => none

/-- The stage after an edit of a removal of rows. -/
def nextOfDelete? (stage : BuildStage) : Edit γ → Option BuildStage
  | .join .. => if stage = unfiltered then some stage else none
  | .filter _ => if stage = unfiltered then some filtered else none
  | .noFilter => if stage = unfiltered then some filtered else none
  | .returning _ => if stage = filtered then some returning else none
  | _ => none

/-- The stage after an edit, if the edit may follow. -/
def next? (stage : BuildStage) (kind : StatementKind) (e : Edit γ) : Option BuildStage :=
  match kind with
  | .select => stage.nextOfSelect? e
  | .insert => stage.nextOfInsert? e
  | .update => stage.nextOfUpdate? e
  | .delete => stage.nextOfDelete? e
  | .truncate => none

/-- Whether the statement can be built. -/
def isComplete (stage : BuildStage) : StatementKind → Bool
  | .select => stage.isSourced
  | .insert => stage == hasValues || stage == returning
  | .update => stage == filtered || stage == returning
  | .delete => stage == filtered || stage == returning
  | .truncate => true

end BuildStage

/-- A statement that is being built. -/
structure Builder where
  statement : Statement
  stage : BuildStage
  /-- The fields of the rows that the statement yields, if it yields rows. -/
  selector? : Option (List Field) := none

/-- A built statement. -/
inductive Built where
  | query (q : Query)
  | command (c : Command)

/-- The statement that was built. -/
def Built.statement : Built → Statement
  | query q => q.statement
  | command c => c.statement

namespace Builder

/-- Begins a statement. -/
def ofTemplate (s : Statement) : Builder := ⟨s, .start s.kind, none⟩

/-- Begins a selection of fields. -/
def select (selector : List Field) : Builder :=
  { ofTemplate (.select (.ofBody { fields := collectFields selector })) with
    selector? := some selector }

/-- Begins a new row. -/
def insertInto (table : Table) : Builder := ofTemplate (.insert { table })

/-- Begins a change of rows. -/
def update (table : Table) : Builder := ofTemplate (.update { table })

/-- Begins a removal of rows. -/
def deleteFrom (table : Table) : Builder := ofTemplate (.delete { table })

/-- Empties a table. -/
def truncateTable (table : Table) : Builder := ofTemplate (.truncate table)

/-- The builder after an edit, if the edit may follow; it can be refused for its content. -/
def edit? (b : Builder) (e : Edit Condition) : Option (Except QueryError Builder) :=
  (b.stage.next? b.statement.kind e).map fun stage =>
    (b.statement.edit e).map fun statement => { b with statement, stage }

/-- Returns fields of the changed rows. -/
def returning? (b : Builder) (selector : List Field) : Option (Except QueryError Builder) :=
  { b with selector? := some selector }.edit? (.returning (collectFields selector))

/-- The built statement, if it has all it needs; slots are only allowed in a prepared one. -/
def build? (b : Builder) (prepared : Bool) : Option (Except QueryError Built) :=
  if b.stage.isComplete b.statement.kind then
    let check := if prepared then b.statement.validate else b.statement.checkBuildable
    some <| check.map fun _ =>
      match b.selector? with
      | some selector => .query ⟨b.statement, selector⟩
      | none => .command ⟨b.statement⟩
  else none

end Builder

end TypedSql
