import TypedSql.ColumnType
import TypedSql.Text.Quoted
/-!
# Keys

Keys are compared, ordered and shown by the value that they wrap; the kind of entity only keeps
keys of different kinds apart. The key whose value is the stand-in for `NULL` counts as not set.

## Main definitions

- `KeyBase`: the types that keys wrap.
- `Key.unset`, `Key.isSet`: the key that is not set.
- `Key.order`, `Key.display`, `Key.inspect`: its order and texts.
-/

namespace TypedSql

/-- The types that keys wrap. -/
inductive KeyBase where
  | guid
  | text
  | int
  | smallInt
  | bigInt
  | bool
deriving DecidableEq

namespace KeyBase

/-- The native type. -/
def sqlType : KeyBase → SqlType
  | guid => .guid
  | text => .text
  | int => .int
  | smallInt => .smallInt
  | bigInt => .bigInt
  | bool => .bool

/-- The types that there are. -/
def all : List KeyBase := [guid, text, int, smallInt, bigInt, bool]

/-- The values. -/
abbrev Carrier (b : KeyBase) : Type := b.sqlType.Carrier

/-- The order of the values: numbers by size, texts by their characters, `false` before `true`. -/
def order : (b : KeyBase) → b.Carrier → b.Carrier → Ordering
  | guid, (x : Guid), (y : Guid) => compare x.bits.toNat y.bits.toNat
  | text, (x : String), (y : String) => compare x y
  | int, (x : Int32), (y : Int32) => compare x.toInt y.toInt
  | smallInt, (x : Int16), (y : Int16) => compare x.toInt y.toInt
  | bigInt, (x : Int64), (y : Int64) => compare x.toInt y.toInt
  | bool, (x : Bool), (y : Bool) => compare x.toNat y.toNat

/-- The value as text. -/
def display : (b : KeyBase) → b.Carrier → String
  | guid, (x : Guid) => x.text
  | text, (x : String) => x
  | int, (x : Int32) => toString x.toInt
  | smallInt, (x : Int16) => toString x.toInt
  | bigInt, (x : Int64) => toString x.toInt
  | bool, (x : Bool) => if x then "true" else "false"

/-- The value in diagnostics, where texts are quoted. -/
def inspect : (b : KeyBase) → b.Carrier → String
  | text, (x : String) => Quoted.text x
  | b, x => b.display x

end KeyBase

namespace Key

variable {entity : String} {b : KeyBase}

/-- The key that is not set. -/
def unset : Key entity b.Carrier := ⟨b.sqlType.nullDefault⟩

/-- The order of the wrapped values. -/
def order (x y : Key entity b.Carrier) : Ordering := b.order x.value y.value

/-- Whether a key is another one than the key that is not set. -/
def isSet (x : Key entity b.Carrier) : Bool := x.order unset != .eq

/-- The wrapped value as text. -/
def display (x : Key entity b.Carrier) : String := b.display x.value

/-- The key in diagnostics. -/
def inspect (x : Key entity b.Carrier) : String := "Key(" ++ b.inspect x.value ++ ")"

end Key

end TypedSql
