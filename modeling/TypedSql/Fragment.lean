import TypedSql.Dialect.Literal
import TypedSql.Errors
/-!
# SQL fragments

A rendered statement is a list of pieces: text, and bindings in the places where a value belongs.
The same pieces give the statement with placeholders and its parameters, and the statement with
its values written as literals.

## Main definitions

- `Binding`: a value that is known, or a slot whose value comes with each execution.
- `Piece`, `Fragment`: the rendered form.
- `Fragment.bindings`, `Fragment.boundSql`, `Fragment.inlineSql`: its views.
- `Binding.resolve`: the parameters of an execution.
-/

namespace TypedSql

/-- What a placeholder stands for. -/
inductive Binding where
  | fixed (type : SqlType) (value : Value)
  | slot (index : Nat) (type : SqlType)
deriving DecidableEq

/-- A named parameter that is sent with a statement. -/
structure Parameter where
  name : String
  type : SqlType
  value : Value
deriving DecidableEq

/-- A part of a rendered statement. -/
inductive Piece where
  | text (s : String)
  | binding (b : Binding)
deriving DecidableEq

/-- A rendered part of a statement. -/
abbrev Fragment := List Piece

namespace Binding

/-- What is written for a binding where values are written into the statement; a slot has none
yet. -/
def inlineText (d : Dialect) : Binding → String
  | fixed _ value => d.literal value
  | slot _ _ => "?"

/-- The parameter for a binding, whose slot takes its value from `slots`. -/
def parameter (name : String) (slots : List Value) : Binding → Except QueryError Parameter
  | fixed type value => .ok ⟨name, type, value⟩
  | slot index type =>
    match slots[index]? with
    | some value => .ok ⟨name, type, value⟩
    | none => .error (.unboundParameter index)

/-- The parameters for bindings from a position on; the first slot without a value is an error. -/
def resolveFrom (style : PlaceholderStyle) (slots : List Value) (position : Nat) :
    List Binding → Except QueryError (List Parameter)
  | [] => .ok []
  | b :: rest =>
    match b.parameter (style.placeholder position) slots with
    | .error e => .error e
    | .ok p => (resolveFrom style slots (position + 1) rest).map (p :: ·)

/-- The parameters of an execution, in the order of their placeholders. -/
def resolve (style : PlaceholderStyle) (bindings : List Binding) (slots : List Value) :
    Except QueryError (List Parameter) :=
  resolveFrom style slots 0 bindings

end Binding

/-- Parameters that are registered one after the other. -/
structure ParameterList where
  style : PlaceholderStyle
  bindings : List Binding := []

namespace ParameterList

/-- Registers a binding; its placeholder is the next one. -/
def add (b : Binding) (ps : ParameterList) : String × ParameterList :=
  (ps.style.placeholder ps.bindings.length, { ps with bindings := ps.bindings ++ [b] })

/-- The parameters of an execution. -/
def resolve (ps : ParameterList) (slots : List Value) : Except QueryError (List Parameter) :=
  Binding.resolve ps.style ps.bindings slots

end ParameterList

namespace Fragment

/-- Text on its own. -/
def ofText (s : String) : Fragment := [.text s]

/-- A fragment in parentheses. -/
def parenthesised (f : Fragment) : Fragment := ofText "(" ++ f ++ ofText ")"

/-- Fragments with commas between them. -/
def commaSeparated (fragments : List Fragment) : Fragment :=
  [Piece.text ","].intercalate fragments

/-- The bindings in text order. -/
def bindings (f : Fragment) : List Binding :=
  f.filterMap fun
    | .text _ => none
    | .binding b => some b

/-- The statement with placeholders, when `position` of them stand before it. -/
def boundSqlFrom (style : PlaceholderStyle) (position : Nat) : Fragment → String
  | [] => ""
  | .text s :: rest => s ++ boundSqlFrom style position rest
  | .binding _ :: rest => style.placeholder position ++ boundSqlFrom style (position + 1) rest

/-- The statement with placeholders. -/
def boundSql (d : Dialect) (f : Fragment) : String := boundSqlFrom d.placeholderStyle 0 f

/-- The statement with its values written as literals. -/
def inlineSql (d : Dialect) : Fragment → String
  | [] => ""
  | .text s :: rest => s ++ inlineSql d rest
  | .binding b :: rest => b.inlineText d ++ inlineSql d rest

end Fragment

end TypedSql
