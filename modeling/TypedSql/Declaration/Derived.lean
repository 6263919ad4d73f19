import TypedSql.Declaration.Descriptor
import TypedSql.Row.Cursor
import TypedSql.Statement.Builder
/-!
# Derived tables

Tables of a descriptor whose columns have column types. A descriptor has one instance that is
shared, and any number of others.

## Main definitions

- `Descriptor.fields`: the columns of an instance as fields.
- `Descriptor.readRow`, `Descriptor.readAll`: rows read by the descriptor.
- `Instances`: the shared instances made so far.
-/

namespace TypedSql

namespace ColumnDescriptor

/-- The column of a table. -/
def toField (table : Table) (c : ColumnDescriptor ColumnType) : Field :=
  .column table c.name c.type c.nullable c.enclosed

/-- What the field holds for a value read: a missing one is replaced if it has to be. -/
def complete (c : ColumnDescriptor ColumnType) (cell : Cell) : Cell :=
  if c.isDefaulted ∧ cell.content?.isNone then ⟨c.type, some c.type.nullDefault⟩ else cell

end ColumnDescriptor

namespace Descriptor

variable (d : Descriptor ColumnType)

/-- A new instance of the table. -/
def instantiate (g : AliasGenerator) : Table × AliasGenerator :=
  g.instantiate d.schema? d.name d.enclosed

/-- The columns of an instance. -/
def fields (table : Table) : List Field := d.columns.map (·.toField table)

/-- The fields of a row from the values of its columns. -/
def complete (cells : List Cell) : List Cell := d.columns.zipWith ColumnDescriptor.complete cells

/-- Reads the fields of a row in order. -/
def readRow (table : Table) (r : Row) : Except DecodeError (List Cell) × Row :=
  let (result, r) := r.getAll (d.fields table)
  (result.map d.complete, r)

/-- Reads all rows to come. -/
def readAll (table : Table) (c : Cursor) : Except DecodeError (List (List Cell)) :=
  (c.readAll (d.fields table)).1.map (List.map d.complete)

/-- The selection of all columns of an instance. -/
def selectAll (table : Table) : Statement :=
  .select (.ofBody { fields := collectFields (d.fields table), source? := some table })

end Descriptor

/-- The shared instances made so far, by the names of their rows. -/
structure Instances where
  generator : AliasGenerator
  shared : List (String × Table) := []

namespace Instances

/-- An instance of its own. -/
def fresh (d : Descriptor ColumnType) (s : Instances) : Table × Instances :=
  let (table, generator) := d.instantiate s.generator
  (table, { s with generator })

/-- The shared instance, which is made when it is first asked for. -/
def sharedInstance (d : Descriptor ColumnType) (s : Instances) : Table × Instances :=
  match s.shared.lookup d.row with
  | some table => (table, s)
  | none =>
    let (table, s) := s.fresh d
    (table, { s with shared := (d.row, table) :: s.shared })

end Instances

end TypedSql
