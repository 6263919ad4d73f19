import TypedSql.Fragment
/-!
# Output

SQL is written from left to right to a text that only grows. A value on the way is either
registered as a parameter, which leaves its placeholder in the text, or written as a literal; the
output decides which, by having parameters or none.

## Main definitions

- `Output`: the text and the parameters so far.
- `SqlWriter`: a program that writes to an output.
- `SqlWriter.text`, `SqlWriter.binding`: its steps.
- `SqlWriter.bound`, `SqlWriter.inlined`: what a program writes to a new output of either kind.
-/

namespace TypedSql

/-- What has been written: the text, and the parameters where values are bound. -/
structure Output where
  sql : String := ""
  parameters? : Option ParameterList := none

/-- The bindings that were registered; there are none where values are written as literals. -/
def Output.bindings (o : Output) : List Binding :=
  (o.parameters?.map ParameterList.bindings).getD []

/-- A program that writes to an output. -/
abbrev SqlWriter := StateM Output Unit

namespace SqlWriter

/-- Appends a text. -/
def text (s : String) : SqlWriter := modify fun o => { o with sql := o.sql ++ s }

/-- Registers a binding and appends its placeholder, or appends its literal. -/
def binding (d : Dialect) (b : Binding) : SqlWriter := do
  match (← get).parameters? with
  | none => text (b.inlineText d)
  | some ps =>
    let (placeholder, ps) := ps.add b
    modify fun o => { o with parameters? := some ps }
    text placeholder

/-- One program after the other, with commas in between. -/
def commaSeparated : List SqlWriter → SqlWriter
  | [] => pure ()
  | first :: rest => do
    first
    rest.forM fun next => do
      text ","
      next

/-- What is written where values are bound, the first as the first parameter. -/
def bound (d : Dialect) (w : SqlWriter) : Output :=
  (w.run { parameters? := some { style := d.placeholderStyle } }).2

/-- What is written where values are literals. -/
def inlined (w : SqlWriter) : Output := (w.run {}).2

end SqlWriter

end TypedSql
