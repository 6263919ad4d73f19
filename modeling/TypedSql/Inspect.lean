import TypedSql.Statement.Query
import TypedSql.Text.Quoted
/-!
# Diagnostics

What tables, columns and sets of parameters look like in diagnostics.

## Main definitions

- `Table.inspect`, `Column.inspect`, `PreparedParams.inspect`.
-/

namespace TypedSql

/-- A named group of fields. -/
def inspectFields (name : String) (fields : List (String × String)) : String :=
  name ++ " \x7b " ++ ", ".intercalate (fields.map fun (field, text) => field ++ ": " ++ text)
    ++ " \x7d"

/-- A table with its alias. -/
def Table.inspect (t : Table) : String :=
  inspectFields "Table" [("schema", Quoted.option t.schema?), ("name", Quoted.text t.name),
    ("alias", Quoted.text t.aliasName)]

/-- A column with the name of its table. -/
def Column.inspect (nullable : Bool) (c : Column) : String :=
  inspectFields (if nullable then "NullableColumn" else "Column")
    [("table", Quoted.text c.table.name), ("name", Quoted.text c.name)]

/-- A set of parameters with their number. -/
def PreparedParams.inspect {α : Type} (params : PreparedParams α) : String :=
  inspectFields "PreparedParams" [("count", toString params.getters.length)]

end TypedSql
