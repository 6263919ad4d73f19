import TypedSql.Row.Cursor
import TypedSql.Statement.Compiled
import TypedSql.Statement.Edit
/-!
# Queries

A built statement: complete, and without parameter slots unless it is prepared. A query knows the
fields of the rows that it yields; a command yields none. Prepared ones take the values of their
slots from an argument of each execution.

## Main definitions

- `Query`, `Command`: built statements.
- `StatementOf.checkBuildable`: whether a statement may become one.
- `Param`, `PreparedParams`: slots and how their values are found in an argument.
- `StatementOf.renderWith`: the text and the parameters of an execution.
-/

namespace TypedSql

/-- A built statement that yields rows. -/
structure Query where
  statement : Statement
  selector : List Field

/-- A built statement that yields none. -/
structure Command where
  statement : Statement

/-- Whether a statement is complete and free of parameter slots. -/
def StatementOf.checkBuildable (s : Statement) : Except QueryError Unit :=
  match s.validate with
  | .error e => .error e
  | .ok _ =>
    match s.firstSlot? with
    | some slot => .error (.unboundParameter slot)
    | none => .ok ()

/-- The statement with placeholders and its parameters, when there are values for the slots. -/
def StatementOf.renderWith (d : Dialect) (s : Statement) (slots : List Value) :
    Except QueryError (String × List Parameter) :=
  let c := s.compile d .bind
  (c.parameters slots).map fun parameters => (c.sql, parameters)

/-- A slot whose values have a type. -/
structure Param where
  index : Nat
  type : ColumnType

/-- The slot as an operand. -/
def Param.operand (p : Param) : Expr := .slot p.index p.type.sqlType

/-- The slot as a field. -/
def Param.field (p : Param) : Field := ⟨p.operand, p.type, false⟩

/-- How the values of the slots are found in an argument. -/
structure PreparedParams (α : Type) where
  getters : List (α → Value) := []

namespace PreparedParams

variable {α : Type}

/-- Registers a slot. -/
def push (params : PreparedParams α) (type : ColumnType) (getter : α → Value) :
    Param × PreparedParams α :=
  (⟨params.getters.length, type⟩, ⟨params.getters ++ [getter]⟩)

/-- Registers a slot that always has a value. -/
def add (params : PreparedParams α) (type : ColumnType) (getter : α → type.Carrier) :
    Param × PreparedParams α :=
  params.push type fun a => type.toValue (getter a)

/-- Registers a slot that may be `NULL`. -/
def addNullable (params : PreparedParams α) (type : ColumnType)
    (getter : α → Option type.Carrier) : Param × PreparedParams α :=
  params.push type fun a =>
    match getter a with
    | some x => type.toValue x
    | none => .null

/-- Registers a slot for the argument at its place in a list. An argument that is missing or of
another type counts as `NULL` if the slot may be `NULL`, and as the stand-in for it otherwise. -/
def addPositional (params : PreparedParams (List Value)) (type : ColumnType) (nullable : Bool) :
    Param × PreparedParams (List Value) :=
  let argument (arguments : List Value) : Option type.Carrier :=
    (type.ofValue (arguments.getD params.getters.length .null)).toOption
  if nullable then params.addNullable type argument
  else params.add type fun arguments => (argument arguments).getD type.nullDefault

/-- The values of the slots for an argument. -/
def values (params : PreparedParams α) (a : α) : List Value :=
  params.getters.map fun getter => getter a

end PreparedParams

end TypedSql
