import TypedSql.Declaration.PascalCase
import TypedSql.Declaration.TypeText
import TypedSql.Text.Quoted
/-!
# Descriptors of declared tables

A declaration of a row, with its fields and their attributes, describes a table: its name, its
columns in the order of the fields, and its key. The first thing that is wrong with a declaration
is an error: the attributes of the row come first, then its shape, then the fields in order.

## Main definitions

- `RowDeclaration`, `FieldDeclaration`, `Attribute`: what is declared. The types of fields can be
  texts or column types.
- `Descriptor`, `ColumnDescriptor`: what is derived from it.
- `RowDeclaration.describe`: the descriptor or the first error.
-/

namespace TypedSql

/-- The value of an attribute. -/
inductive AttributeValue where
  | text (s : String)
  | other
deriving DecidableEq

/-- The value that is written in a declaration: a quoted text, or something else. -/
def AttributeValue.ofSource (source : String) : AttributeValue :=
  ((Quoted.parse? source).map .text).getD .other

/-- A flag, or a key with a value. -/
structure Attribute where
  key : String
  value? : Option AttributeValue := none
deriving DecidableEq

/-- What is declared. -/
inductive RowShape where
  | named
  | positional
  | empty
  | alternatives
deriving DecidableEq

/-- A declared field. -/
structure FieldDeclaration (τ : Type) where
  name : String
  type : τ
  /-- Whether the field may be missing. -/
  optional : Bool := false
  attributes : List Attribute := []

/-- A declared row. -/
structure RowDeclaration (τ : Type) where
  name : String
  shape : RowShape := .named
  attributes : List Attribute := []
  fields : List (FieldDeclaration τ)

/-- What can be wrong with a declaration. -/
inductive DeclarationError where
  | expectedEquals
  | expectedText
  | expectedComma
  | emptyTableName
  | unknownTableAttribute
  | unknownColumnAttribute
  | expectedNamedFields
  | expectedStructure
  | emptyColumnName
  | severalPrimaryKeys
deriving DecidableEq, Repr

/-- The wording of the error. -/
def DeclarationError.message : DeclarationError → String
  | expectedEquals => "expected `=`"
  | expectedText => "expected a string literal"
  | expectedComma => "expected `,`"
  | emptyTableName => "table name must not be empty"
  | unknownTableAttribute => "unknown table attribute"
  | unknownColumnAttribute => "unknown column attribute"
  | expectedNamedFields => "Table derive only supports structs with named fields"
  | expectedStructure => "Table derive only supports structs"
  | emptyColumnName => "column name must not be empty"
  | severalPrimaryKeys => "at most one field can be marked #[column(primary_key)]"

namespace Attribute

/-- The text of an attribute that needs one. -/
def text (a : Attribute) : Except DeclarationError String :=
  match a.value? with
  | none => .error .expectedEquals
  | some .other => .error .expectedText
  | some (.text s) => .ok s

/-- A result of an attribute that takes no value. -/
def flag {α : Type} (a : Attribute) (result : α) : Except DeclarationError α :=
  if a.value?.isSome then .error .expectedComma else .ok result

end Attribute

/-- What the attributes of a row say. -/
structure TableSettings where
  name : String
  schema? : Option String := none
  enclosed : Bool := false

/-- Applies an attribute; a later one wins over an earlier one. -/
def TableSettings.apply (s : TableSettings) (a : Attribute) :
    Except DeclarationError TableSettings :=
  match a.key with
  | "name" => do
    let name ← a.text
    if name = "" then .error .emptyTableName else .ok { s with name }
  | "schema" => do
    let schema ← a.text
    .ok { s with schema? := if schema = "" then none else some schema }
  | "enclose" => a.flag { s with enclosed := true }
  | _ => .error .unknownTableAttribute

/-- What the attributes of a field say. -/
structure ColumnSettings where
  name? : Option String := none
  primaryKey : Bool := false
  nullable : Bool := false
  enclosed : Bool := false

/-- Applies an attribute; a later one wins over an earlier one. -/
def ColumnSettings.apply (s : ColumnSettings) (a : Attribute) :
    Except DeclarationError ColumnSettings :=
  match a.key with
  | "name" => do .ok { s with name? := some (← a.text) }
  | "primary_key" => a.flag { s with primaryKey := true }
  | "nullable" => a.flag { s with nullable := true }
  | "enclose" => a.flag { s with enclosed := true }
  | _ => .error .unknownColumnAttribute

/-- A derived column. -/
structure ColumnDescriptor (τ : Type) where
  field : String
  type : τ
  /-- Whether the field may be missing. -/
  optional : Bool
  name : String
  primaryKey : Bool
  /-- Whether the column may hold `NULL`. -/
  nullable : Bool
  enclosed : Bool

/-- A derived table. -/
structure Descriptor (τ : Type) where
  /-- The name of the row. -/
  row : String
  name : String
  schema? : Option String
  enclosed : Bool
  columns : List (ColumnDescriptor τ)

namespace ColumnDescriptor

variable {τ : Type}

/-- Whether a `NULL` reads as the stand-in of the type. -/
def isDefaulted (c : ColumnDescriptor τ) : Bool := c.nullable && !c.optional

/-- What is said about the column where it is documented. -/
def doc (c : ColumnDescriptor τ) : String := "The `" ++ c.name ++ "` column."

end ColumnDescriptor

namespace Descriptor

variable {τ : Type}

/-- The name of the descriptor: that of the row without the mark of a reserved word, and
`Table`. -/
def typeName (d : Descriptor τ) : String :=
  match d.row.toList with
  | 'r' :: '#' :: rest => String.ofList rest ++ "Table"
  | _ => d.row ++ "Table"

/-- The names of the columns. -/
def columnNames (d : Descriptor τ) : List String := d.columns.map (·.name)

/-- The name of the key column. -/
def primaryKey? (d : Descriptor τ) : Option String := (d.columns.find? (·.primaryKey)).map (·.name)

end Descriptor

namespace FieldDeclaration

/-- The column of a field. -/
def describe {τ : Type} (f : FieldDeclaration τ) :
    Except DeclarationError (ColumnDescriptor τ) := do
  let s ← f.attributes.foldlM ColumnSettings.apply {}
  let name := s.name?.getD (pascalCase f.name)
  if name = "" then .error .emptyColumnName
  else
    .ok ⟨f.name, f.type, f.optional, name, s.primaryKey, f.optional || s.nullable, s.enclosed⟩

/-- A field whose type is a text, which says whether the field may be missing. -/
def ofText (name type : String) (attributes : List Attribute) : FieldDeclaration String :=
  let type := TypeText.withoutBlanks type
  match TypeText.optionArgument? type with
  | some inner => ⟨name, inner, true, attributes⟩
  | none => ⟨name, type, false, attributes⟩

end FieldDeclaration

namespace RowShape

/-- Rows have named fields. -/
def check : RowShape → Except DeclarationError Unit
  | named => .ok ()
  | alternatives => .error .expectedStructure
  | _ => .error .expectedNamedFields

end RowShape

namespace RowDeclaration

variable {τ : Type}

/-- The table that the declaration describes. -/
def describe (d : RowDeclaration τ) : Except DeclarationError (Descriptor τ) := do
  let s ← d.attributes.foldlM TableSettings.apply { name := d.name }
  d.shape.check
  let columns ← d.fields.mapM FieldDeclaration.describe
  if 1 < columns.countP (·.primaryKey) then .error .severalPrimaryKeys
  else .ok ⟨d.name, s.name, s.schema?, s.enclosed, columns⟩

end RowDeclaration

end TypedSql
