import TypedSql.Statement.Write
/-!
# Compiled statements

A statement rendered for a dialect and a parameter mode, and the cache of such renderings that
each query keeps.

## Main definitions

- `ParameterMode`: whether values are bound or written into the text.
- `Compiled`: a rendered statement with its bindings.
- `CompiledCache`: the renderings made so far, by dialect and mode.
-/

namespace TypedSql

/-- How values reach the database: as parameters or within the text. -/
inductive ParameterMode where
  | bind
  | inline
deriving DecidableEq, Repr

/-- The name of the mode. -/
def ParameterMode.name : ParameterMode → String
  | bind => "Bind"
  | inline => "Inline"

/-- A statement rendered for a dialect and a mode. -/
structure Compiled where
  sql : String
  style : PlaceholderStyle
  bindings : List Binding
deriving DecidableEq

/-- The rendering of a statement: with placeholders and its bindings, or with its values in the
text and no bindings. -/
def StatementOf.compile (d : Dialect) (mode : ParameterMode) (s : Statement) : Compiled :=
  let output :=
    match mode with
    | .bind => (s.write d).bound d
    | .inline => (s.write d).inlined
  ⟨output.sql, d.placeholderStyle, output.bindings⟩

/-- The parameters of an execution. -/
def Compiled.parameters (c : Compiled) (slots : List Value) : Except QueryError (List Parameter) :=
  Binding.resolve c.style c.bindings slots

/-- What a rendering is made for. -/
structure CompileKey where
  dialect : Dialect
  mode : ParameterMode
deriving DecidableEq

/-- The renderings made so far. -/
structure CompiledCache where
  entries : List (CompileKey × Compiled) := []

namespace CompiledCache

/-- The rendering for a key, if it was made. -/
def find? (cache : CompiledCache) (key : CompileKey) : Option Compiled :=
  cache.entries.lookup key

/-- Adds a rendering, in place of one for the same key. -/
def insert (cache : CompiledCache) (key : CompileKey) (c : Compiled) : CompiledCache :=
  ⟨cache.entries.filter (fun entry => entry.1 ≠ key) ++ [(key, c)]⟩

/-- The rendering for a key, made now if it was not before. -/
def getOrCompile (cache : CompiledCache) (s : Statement) (key : CompileKey) :
    Compiled × CompiledCache :=
  match cache.find? key with
  | some c => (c, cache)
  | none =>
    let c := s.compile key.dialect key.mode
    (c, cache.insert key c)

end CompiledCache

end TypedSql
