import TypedSql.Dialect.Basic
import TypedSql.Dialect.Keywords
import TypedSql.Table
import TypedSql.Text.Delimited
/-!
# Identifiers

Names are written bare where the dialect reads them back unchanged, and quoted otherwise or on
demand. PostgreSQL folds bare names to lower case, so a name with an upper-case letter is quoted
there.

## Main definitions

- `Dialect.needsQuoting`: whether a bare name would not read back.
- `Dialect.identifier`: the written name.
- `Dialect.tableName`, `Dialect.tableReference`, `Dialect.columnReference`: qualified names.
-/

namespace TypedSql

/-- Whether a name is a word: ASCII letters, digits and underscores, not beginning with a digit. -/
def isPlainIdentifier (name : String) : Bool :=
  match name.toList with
  | [] => false
  | first :: rest =>
    (first.isAlpha || first == '_') && rest.all fun c => c.isAlphanum || c == '_'

namespace Dialect

/-- The characters around a quoted name. -/
def quotes : Dialect → Char × Char
  | sqlServer => ('[', ']')
  | postgres => ('"', '"')

/-- Whether the dialect reserves a word. -/
def isReserved (d : Dialect) (word : String) : Bool :=
  Keywords.reserves Keywords.shared word
    || Keywords.reserves (match d with
      | sqlServer => Keywords.sqlServer
      | postgres => Keywords.postgres) word

/-- Whether a name must be quoted to be read back as it is. -/
def needsQuoting (d : Dialect) (name : String) : Bool :=
  (d == postgres && name.toList.any Char.isUpper) || !isPlainIdentifier name || d.isReserved name

/-- The written name, quoted where it must be or where `enclosed` asks for it. -/
def identifier (d : Dialect) (name : String) (enclosed : Bool) : String :=
  if enclosed || d.needsQuoting name then Delimited.enclose d.quotes.1 d.quotes.2 name else name

/-- The written name of a table, after its schema if it has one. -/
def tableName (d : Dialect) (t : Table) : String :=
  match t.schema? with
  | some schema => d.identifier schema t.enclosed ++ "." ++ d.identifier t.name t.enclosed
  | none => d.identifier t.name t.enclosed

/-- A table where a statement declares it, with its alias if columns are qualified. -/
def tableReference (d : Dialect) (qualified : Bool) (t : Table) : String :=
  if qualified then d.tableName t ++ " AS " ++ t.aliasName else d.tableName t

/-- A column where an expression mentions it. -/
def columnReference (d : Dialect) (qualified : Bool) (c : Column) : String :=
  if qualified then c.table.aliasName ++ "." ++ d.identifier c.name c.enclosed
  else d.identifier c.name c.enclosed

end Dialect

end TypedSql
