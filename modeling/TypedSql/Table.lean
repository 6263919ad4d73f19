import TypedSql.Errors
import TypedSql.Text.Hex
/-!
# Tables and columns

A table is an instance: two instances of one database table are different tables with different
aliases, which is what makes self-joins possible. Instances are drawn from an alias generator,
whose draws are numbered.

## Main definitions

- `AliasGenerator`: the next number to draw.
- `Table`: an instance; `Table.sameInstance` compares identity, not names.
- `Column`: a column of a table instance, as it occurs in expressions.
-/

namespace TypedSql

/-- Which generator drew a table, and as which draw. -/
structure TableId where
  generator : Nat
  number : UInt64
deriving DecidableEq

/-- The alias with a number: an underscore and lower-case hexadecimal digits. -/
def AliasGenerator.aliasOf (n : UInt64) : String := String.ofList ('_' :: Hex.ofNat n.toNat)

/-- A table instance. -/
structure Table where
  schema? : Option String
  name : String
  /-- Whether the names are always quoted. -/
  enclosed : Bool
  id : TableId
deriving DecidableEq

namespace Table

/-- The alias that was drawn with the instance. -/
def aliasName (t : Table) : String := AliasGenerator.aliasOf t.id.number

/-- Whether two tables are the same instance. -/
def sameInstance (a b : Table) : Bool := a.id == b.id

end Table

/-- Hands out table aliases; generators are told apart by their identity. -/
structure AliasGenerator where
  id : Nat
  next : UInt64 := 0

namespace AliasGenerator

/-- Draws the next alias. -/
def draw (g : AliasGenerator) : String × AliasGenerator :=
  (aliasOf g.next, { g with next := g.next + 1 })

/-- A new instance of a table whose name was checked before. An empty schema is no schema. -/
def instantiate (g : AliasGenerator) (schema? : Option String) (name : String) (enclosed : Bool) :
    Table × AliasGenerator :=
  ({ schema? := schema?.filter (· ≠ ""), name, enclosed, id := ⟨g.id, g.next⟩ }, g.draw.2)

/-- A new instance is declared with the alias that is drawn for it. -/
theorem aliasName_instantiate (g : AliasGenerator) (schema? : Option String) (name : String)
    (enclosed : Bool) : (g.instantiate schema? name enclosed).1.aliasName = g.draw.1 := rfl

/-- A new instance of a table. An empty name is refused and draws no alias. -/
def newTable (g : AliasGenerator) (schema? : Option String) (name : String) :
    Except QueryError Table × AliasGenerator :=
  if name = "" then (.error .emptyTableName, g)
  else
    let (table, rest) := g.instantiate schema? name false
    (.ok table, rest)

end AliasGenerator

/-- A column of a table instance. -/
structure Column where
  table : Table
  name : String
  /-- Whether the name is always quoted. -/
  enclosed : Bool
  type : SqlType
deriving DecidableEq

end TypedSql
