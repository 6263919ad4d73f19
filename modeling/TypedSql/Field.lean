import TypedSql.ColumnType
import TypedSql.Statement.Clause
/-!
# Typed fields

A field is an expression with the column type of its values, and with what a `NULL` reads as:
nothing where the field may be missing, and the type's stand-in otherwise. Fields are what
statements select and what typed expressions are built from.

## Main definitions

- `Field`: a typed expression.
- `Cell`: a value that was read.
- `Field.read`: what a native value reads as.
- `Field.column`, `Field.value`, `Field.sum` and others: the ways to build one.
-/

namespace TypedSql

/-- An expression with the type of its values. -/
structure Field where
  expr : Expr
  type : ColumnType
  /-- Whether a `NULL` reads as nothing instead of as the type's stand-in. -/
  nullable : Bool := false

/-- A value that was read, or nothing. -/
structure Cell where
  type : ColumnType
  content? : Option type.Carrier

/-- A value as an operand: it is bound with its type. -/
def ColumnType.operand (t : ColumnType) (x : t.Carrier) : Expr := .value t.sqlType (t.toValue x)

namespace Field

/-- What the field holds when it is not read from a row. -/
def placeholder (f : Field) : Cell :=
  ⟨f.type, if f.nullable then none else some f.type.nullDefault⟩

/-- What a native value reads as. -/
def read (f : Field) (v : Value) : Except DecodeError Cell :=
  match v with
  | .null => .ok f.placeholder
  | _ => (f.type.ofValue v).map fun x => ⟨f.type, some x⟩

/-- A column of a table. -/
def column (table : Table) (name : String) (type : ColumnType) (nullable : Bool := false)
    (enclosed : Bool := false) : Field :=
  ⟨.column ⟨table, name, enclosed, type.sqlType⟩, type, nullable⟩

/-- A value. -/
def value (type : ColumnType) (x : type.Carrier) : Field := ⟨type.operand x, type, false⟩

/-- A text. -/
def text (s : String) : Field := value (.native .text) s

/-- Text that is taken over as it is. -/
def raw (sql : String) (type : ColumnType) : Field := ⟨.raw sql, type, false⟩

/-- Arithmetic has the type of its left side. -/
def arithmetic (op : ArithmeticOp) (left : Field) (right : Expr) : Field :=
  ⟨.arithmetic op left.expr right, left.type, false⟩

/-- The number of rows. -/
def countAll : Field := ⟨.call .countAll [], .native .bigInt, false⟩

/-- The number of values that are not `NULL`. -/
def count (f : Field) : Field := ⟨.call .count [f.expr], .native .bigInt, false⟩

/-- The number of distinct values. -/
def countDistinct (f : Field) : Field := ⟨.call .countDistinct [f.expr], .native .bigInt, false⟩

/-- The sum, which is missing for no rows. -/
def sum (f : Field) : Field := ⟨.call .sum [f.expr], f.type, true⟩

/-- The average, which is missing for no rows. -/
def avg (f : Field) : Field := ⟨.call .avg [f.expr], f.type, true⟩

/-- The least value, which is missing for no rows. -/
def min (f : Field) : Field := ⟨.call .min [f.expr], f.type, true⟩

/-- The greatest value, which is missing for no rows. -/
def max (f : Field) : Field := ⟨.call .max [f.expr], f.type, true⟩

/-- The value, or another one where it is `NULL`. -/
def coalesce (f : Field) (fallback : Expr) : Field :=
  ⟨.call .coalesce [f.expr, fallback], f.type, false⟩

/-- The text in lower case. -/
def lower (f : Field) : Field := ⟨.call .lower [f.expr], .native .text, false⟩

/-- The text in upper case. -/
def upper (f : Field) : Field := ⟨.call .upper [f.expr], .native .text, false⟩

/-- The length of a text. -/
def length (f : Field) : Field := ⟨.call .length [f.expr], .native .int, false⟩

/-- The date and time of the database. -/
def currentTimestamp : Field := ⟨.call .currentTimestamp [], .native .dateTime, false⟩

/-- A new identifier made by the database. -/
def newGuid : Field := ⟨.call .newGuid [], .native .guid, false⟩

/-- A function without a builder. -/
def custom (name : String) (args : List Expr) (type : ColumnType) (nullable : Bool) : Field :=
  ⟨.call (.custom name) args, type, nullable⟩

/-- The function applied to fields, if it has a builder for so many. -/
def ofCall? (function : SqlFunction) (args : List Field) : Option Field :=
  match function, args with
  | .countAll, [] => some countAll
  | .count, [f] => some f.count
  | .countDistinct, [f] => some f.countDistinct
  | .sum, [f] => some f.sum
  | .avg, [f] => some f.avg
  | .min, [f] => some f.min
  | .max, [f] => some f.max
  | .coalesce, [f, fallback] => some (f.coalesce fallback.expr)
  | .lower, [f] => some f.lower
  | .upper, [f] => some f.upper
  | .length, [f] => some f.length
  | .currentTimestamp, [] => some currentTimestamp
  | .newGuid, [] => some newGuid
  | _, _ => none

end Field

namespace Assignment

/-- A column set to `NULL`, which has the column's type. -/
def null (column : Column) : Assignment := ⟨column, .value column.type .null⟩

/-- A column set to a native value of its type, which may be `NULL`. -/
def optional (column : Column) (v : Value) : Assignment := ⟨column, .value column.type v⟩

end Assignment

end TypedSql
