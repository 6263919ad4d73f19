import TypedSql.Calendar.DateTime
import TypedSql.Guid
import TypedSql.Number.Binary
/-!
# SQL values

The native values that are bound to parameters and read from result rows, and the logical types
that columns and parameters are declared with. The declared type is kept beside the value, so that
a `NULL` has a type too.

## Main definitions

- `SqlType`: the declared types.
- `Value`: the native values.
- `Value.sqlType?`: the type that a value belongs to; `NULL` belongs to none.
- `IntegerWidth`: the four integer types, their carriers and their ranges.
-/

namespace TypedSql

/-- The declared logical type of a column or parameter. -/
inductive SqlType where
  | bool
  | tinyInt
  | smallInt
  | int
  | bigInt
  | real
  | double
  | text
  | guid
  | blob
  | date
  | time
  | dateTime
  | dateTimeOffset
deriving DecidableEq, Repr

namespace SqlType

/-- All declared types. -/
def all : List SqlType :=
  [bool, tinyInt, smallInt, int, bigInt, real, double, text, guid, blob, date, time, dateTime,
    dateTimeOffset]

/-- The name used in messages. -/
def name : SqlType → String
  | bool => "Bool"
  | tinyInt => "TinyInt"
  | smallInt => "SmallInt"
  | int => "Int"
  | bigInt => "BigInt"
  | real => "Real"
  | double => "Double"
  | text => "Text"
  | guid => "Guid"
  | blob => "Blob"
  | date => "Date"
  | time => "Time"
  | dateTime => "DateTime"
  | dateTimeOffset => "DateTimeOffset"

end SqlType

/-- A native value. -/
inductive Value where
  | null
  | bool (b : Bool)
  | tinyInt (n : UInt8)
  | smallInt (n : Int16)
  | int (n : Int32)
  | bigInt (n : Int64)
  | real (x : Binary32)
  | double (x : Binary64)
  | text (s : String)
  | guid (g : Guid)
  | blob (bytes : List UInt8)
  | date (d : Date)
  | time (t : TimeOfDay)
  | dateTime (t : DateTime)
  | dateTimeOffset (t : OffsetDateTime)
deriving DecidableEq

/-- The widths of the integer types. -/
inductive IntegerWidth where
  | tiny
  | small
  | regular
  | big
deriving DecidableEq

namespace IntegerWidth

/-- The integers of a width; the narrowest has no sign. -/
def Carrier : IntegerWidth → Type
  | tiny => UInt8
  | small => Int16
  | regular => Int32
  | big => Int64

/-- The declared type of a width. -/
def sqlType : IntegerWidth → SqlType
  | tiny => .tinyInt
  | small => .smallInt
  | regular => .int
  | big => .bigInt

/-- The least integer of a width. -/
def lowest : IntegerWidth → Int
  | tiny => 0
  | small => -32768
  | regular => -2147483648
  | big => -9223372036854775808

/-- The greatest integer of a width. -/
def highest : IntegerWidth → Int
  | tiny => 255
  | small => 32767
  | regular => 2147483647
  | big => 9223372036854775807

/-- The mathematical value. -/
def toInt : (w : IntegerWidth) → w.Carrier → Int
  | tiny, n => UInt8.toNat n
  | small, n => Int16.toInt n
  | regular, n => Int32.toInt n
  | big, n => Int64.toInt n

/-- Zero. -/
def zero : (w : IntegerWidth) → w.Carrier
  | tiny => (0 : UInt8)
  | small => (0 : Int16)
  | regular => (0 : Int32)
  | big => (0 : Int64)

/-- The integer of a width with a mathematical value, if it is in range. -/
def ofInt? (w : IntegerWidth) (n : Int) : Option w.Carrier :=
  if w.lowest ≤ n ∧ n ≤ w.highest then
    some (match w with
      | tiny => UInt8.ofNat n.toNat
      | small => Int16.ofInt n
      | regular => Int32.ofInt n
      | big => Int64.ofInt n)
  else none

/-- The native value of an integer. -/
def toValue : (w : IntegerWidth) → w.Carrier → Value
  | tiny, n => .tinyInt n
  | small, n => .smallInt n
  | regular, n => .int n
  | big, n => .bigInt n

end IntegerWidth

namespace SqlType

/-- The width of an integer type; the other types have none. -/
def integerWidth? : SqlType → Option IntegerWidth
  | tinyInt => some .tiny
  | smallInt => some .small
  | int => some .regular
  | bigInt => some .big
  | _ => none

/-- Whether the type is one of the integer types. -/
def isInteger (t : SqlType) : Bool := t.integerWidth?.isSome

end SqlType

namespace Value

/-- The type that the value belongs to; `NULL` belongs to none. -/
def sqlType? : Value → Option SqlType
  | null => none
  | bool _ => some .bool
  | tinyInt _ => some .tinyInt
  | smallInt _ => some .smallInt
  | int _ => some .int
  | bigInt _ => some .bigInt
  | real _ => some .real
  | double _ => some .double
  | text _ => some .text
  | guid _ => some .guid
  | blob _ => some .blob
  | date _ => some .date
  | time _ => some .time
  | dateTime _ => some .dateTime
  | dateTimeOffset _ => some .dateTimeOffset

/-- The mathematical value of an integer of any width. -/
def toInt? : Value → Option Int
  | tinyInt n => some n.toNat
  | smallInt n => some n.toInt
  | int n => some n.toInt
  | bigInt n => some n.toInt
  | _ => none

/-- The name of the value's type in messages. -/
def typeName (v : Value) : String :=
  match v.sqlType? with
  | some t => t.name
  | none => "NULL"

end Value

end TypedSql
