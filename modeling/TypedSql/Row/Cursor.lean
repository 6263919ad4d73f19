import TypedSql.Field
/-!
# Reading rows

A cursor steps through the rows of a result. A row is read by its fields strictly in order, each
from the next ordinal. The same list of fields is run once without a row when a statement is
built, which is how the list of selected expressions is found.

## Main definitions

- `Cursor`: the rows to come and the current one; `Cursor.next`, `Cursor.value`.
- `Row`: a reading in progress; `Row.get` reads the next field.
- `collectFields`: the expressions of a list of fields.
- `readRow`, `Cursor.readAll`: the cells of one row and of all, or the first error.
-/

namespace TypedSql

/-- The rows of a result. -/
structure Cursor where
  fieldCount : Nat := 0
  rows : List (List Value) := []
  current? : Option (List Value) := none
  recordsAffected : Nat := 0

namespace Cursor

/-- Steps to the next row, if there is one. -/
def next (c : Cursor) : Bool × Cursor :=
  match c.rows with
  | [] => (false, { c with current? := none })
  | row :: rest => (true, { c with rows := rest, current? := some row })

/-- The value of a row at an ordinal. -/
def valueOf (row : List Value) (ordinal : Nat) : Except DecodeError Value :=
  match row[ordinal]? with
  | some v => .ok v
  | none => .error (.columnOutOfRange ordinal row.length)

/-- The value of the current row at an ordinal. -/
def value (c : Cursor) (ordinal : Nat) : Except DecodeError Value :=
  match c.current? with
  | none => .error .noCurrentRow
  | some row => valueOf row ordinal

/-- Whether the value at an ordinal is `NULL`. -/
def isNull (c : Cursor) (ordinal : Nat) : Except DecodeError Bool :=
  (c.value ordinal).map (· = .null)

/-- The value at an ordinal as a native type; `NULL` is not one. -/
def get (c : Cursor) (t : SqlType) (ordinal : Nat) : Except DecodeError t.Carrier :=
  match c.value ordinal with
  | .error e => .error e
  | .ok v => (t.ofValue v).mapError (.atOrdinal ordinal)

end Cursor

/-- What a row is read from. -/
inductive RowSource where
  /-- Nothing: the fields asked for are noted. -/
  | collecting (fields : List Expr)
  | reading (c : Cursor)

/-- A reading of a row in progress. -/
structure Row where
  source : RowSource
  position : Nat := 0

namespace Row

/-- A reading that only notes the fields asked for. -/
def collect : Row := ⟨.collecting [], 0⟩

/-- A reading of the current row of a cursor. -/
def ofCursor (c : Cursor) : Row := ⟨.reading c, 0⟩

/-- Whether there is no row. -/
def isCollecting (r : Row) : Bool :=
  match r.source with
  | .collecting _ => true
  | .reading _ => false

/-- The fields noted so far. -/
def fields (r : Row) : List Expr :=
  match r.source with
  | .collecting fields => fields
  | .reading _ => []

/-- Reads the next field. The position advances after an error too. -/
def get (f : Field) (r : Row) : Except DecodeError Cell × Row :=
  match r.source with
  | .collecting fields => (.ok f.placeholder, ⟨.collecting (fields ++ [f.expr]), r.position + 1⟩)
  | .reading c =>
    let result :=
      match c.value r.position with
      | .error e => .error e
      | .ok v => (f.read v).mapError (.atOrdinal r.position)
    (result, { r with position := r.position + 1 })

/-- Reads fields in turn, up to the first error. -/
def getAll : List Field → Row → Except DecodeError (List Cell) × Row
  | [], r => (.ok [], r)
  | f :: rest, r =>
    match r.get f with
    | (.error e, r) => (.error e, r)
    | (.ok cell, r) =>
      match getAll rest r with
      | (.error e, r) => (.error e, r)
      | (.ok cells, r) => (.ok (cell :: cells), r)

/-- Reads fields in turn, whether or not those before could be read. -/
def getEach : List Field → Row → List (Except DecodeError Cell) × Row
  | [], r => ([], r)
  | f :: rest, r =>
    let (result, r) := r.get f
    let (results, r) := getEach rest r
    (result :: results, r)

end Row

/-- The expressions that fields ask for. -/
def collectFields (selector : List Field) : List Expr := (Row.collect.getAll selector).2.fields

/-- The cells of one row. -/
def readRow (selector : List Field) (row : List Value) : Except DecodeError (List Cell) :=
  ((Row.ofCursor { current? := some row }).getAll selector).1

namespace Cursor

/-- The cells of the rows to come, with the cursor after them, which stays on a row that cannot be
read. -/
def readAllOf (selector : List Field) (c : Cursor) :
    List (List Value) → Except DecodeError (List (List Cell)) × Cursor
  | [] => (.ok [], { c with rows := [], current? := none })
  | row :: rest =>
    match readRow selector row with
    | .error e => (.error e, { c with rows := rest, current? := some row })
    | .ok cells =>
      let (result, c) := readAllOf selector c rest
      (result.map (cells :: ·), c)

/-- Reads all rows to come, or fails with the error of the first that cannot be read. -/
def readAll (selector : List Field) (c : Cursor) : Except DecodeError (List (List Cell)) × Cursor :=
  c.readAllOf selector c.rows

end Cursor

end TypedSql
