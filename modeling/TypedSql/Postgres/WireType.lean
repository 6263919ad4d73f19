import TypedSql.Calendar.Microseconds
import TypedSql.Number.BigEndian
import TypedSql.Text.Utf8
import TypedSql.Value
/-!
# Types of PostgreSQL

The types that the server has for parameters and columns, and those of the values that the driver
takes and gives. The driver's types are fewer: every text is one to it, there are no integers of one
byte, and an instant has no offset from UTC.

## Main definitions

- `Postgres.WireType`: the types of the server.
- `Postgres.DriverType`, `Postgres.DriverValue`: the types of the driver and their values.
- `Postgres.DriverType.wireType`: the type of the server that values of a type are sent with.
- `Postgres.DriverType.carried`: a value as it arrives at the other end.
- `Postgres.DriverType.toBytes`, `Postgres.DriverType.ofBytes`: the bytes of a value, and the value
  that bytes are.
-/

namespace TypedSql

namespace Postgres

/-- A type of parameters and columns. -/
inductive WireType where
  | bool
  | int2
  | int4
  | int8
  | float4
  | float8
  | text
  | varchar
  | bpchar
  | name
  | uuid
  | bytea
  | date
  | time
  | timestamp
  | timestamptz
deriving DecidableEq

namespace WireType

/-- How the server spells the type. -/
def spelling : WireType → String
  | bool => "bool"
  | int2 => "int2"
  | int4 => "int4"
  | int8 => "int8"
  | float4 => "float4"
  | float8 => "float8"
  | text => "text"
  | varchar => "varchar"
  | bpchar => "bpchar"
  | name => "name"
  | uuid => "uuid"
  | bytea => "bytea"
  | date => "date"
  | time => "time"
  | timestamp => "timestamp"
  | timestamptz => "timestamptz"

/-- All types. -/
def all : List WireType :=
  [bool, int2, int4, int8, float4, float8, text, varchar, bpchar, name, uuid, bytea, date, time,
    timestamp, timestamptz]

/-- The type with a spelling. -/
def ofSpelling? (s : String) : Option WireType := all.find? fun t => t.spelling = s

end WireType

/-- How an error names a type other than that of arrays. The type of single bytes is in quotes,
since without them the name is that of padded texts. -/
def elementLabel (spelling : String) : String :=
  if spelling = "char" then "\"CHAR\"" else if spelling = "bpchar" then "CHAR"
  else spelling.toUpper

/-- How an error names a type of the server. -/
def typeLabel (spelling : String) : String :=
  match spelling.toList.reverse with
  | ']' :: '[' :: element => elementLabel (String.ofList element.reverse) ++ "[]"
  | _ => elementLabel spelling

/-- A type of values that the driver takes and gives. -/
inductive DriverType where
  | bool
  | int16
  | int32
  | int64
  | float32
  | float64
  | string
  | uuid
  | bytes
  | date
  | time
  | dateTime
  | instant
deriving DecidableEq

namespace DriverType

/-- The values of the type. An instant is told in UTC. -/
def Carrier : DriverType → Type
  | bool => Bool
  | int16 => Int16
  | int32 => Int32
  | int64 => Int64
  | float32 => Binary32
  | float64 => Binary64
  | string => String
  | uuid => Guid
  | bytes => List UInt8
  | date => Date
  | time => TimeOfDay
  | dateTime => DateTime
  | instant => DateTime

instance decidableEqCarrier : (t : DriverType) → DecidableEq t.Carrier
  | bool => inferInstanceAs (DecidableEq Bool)
  | int16 => inferInstanceAs (DecidableEq Int16)
  | int32 => inferInstanceAs (DecidableEq Int32)
  | int64 => inferInstanceAs (DecidableEq Int64)
  | float32 => inferInstanceAs (DecidableEq Binary32)
  | float64 => inferInstanceAs (DecidableEq Binary64)
  | string => inferInstanceAs (DecidableEq String)
  | uuid => inferInstanceAs (DecidableEq Guid)
  | bytes => inferInstanceAs (DecidableEq (List UInt8))
  | date => inferInstanceAs (DecidableEq Date)
  | time => inferInstanceAs (DecidableEq TimeOfDay)
  | dateTime => inferInstanceAs (DecidableEq DateTime)
  | instant => inferInstanceAs (DecidableEq DateTime)

/-- The type of the server that values are sent with. -/
def wireType : DriverType → WireType
  | bool => .bool
  | int16 => .int2
  | int32 => .int4
  | int64 => .int8
  | float32 => .float4
  | float64 => .float8
  | string => .text
  | uuid => .uuid
  | bytes => .bytea
  | date => .date
  | time => .time
  | dateTime => .timestamp
  | instant => .timestamptz

/-- The value as it arrives. Times are whole microseconds on the way, and all else is unchanged. -/
def carried : (t : DriverType) → t.Carrier → t.Carrier
  | time, t => TimeOfDay.truncated t
  | dateTime, t => DateTime.truncated t
  | instant, t => DateTime.truncated t
  | _, x => x

/-- The bytes of a value. Dates are counted in days and other times in microseconds. -/
def toBytes : (t : DriverType) → t.Carrier → List UInt8
  | bool, b => [Bool.toUInt8 b]
  | int16, n => BigEndian.ofInt 2 (Int16.toInt n)
  | int32, n => BigEndian.ofInt 4 (Int32.toInt n)
  | int64, n => BigEndian.ofInt 8 (Int64.toInt n)
  | float32, x => BigEndian.ofNat 4 (Binary32.bits x).toNat
  | float64, x => BigEndian.ofNat 8 (Binary64.bits x).toNat
  | string, s => (String.toList s).flatMap String.utf8EncodeChar
  | uuid, g => BigEndian.ofNat 16 (Guid.bits g).toNat
  | bytes, content => content
  | date, d => BigEndian.ofInt 4 (Date.dayNumber d - DateTime.microsecondEpoch.date.dayNumber)
  | time, t => BigEndian.ofNat 8 (TimeOfDay.microseconds t)
  | dateTime, t => BigEndian.ofInt 8 (DateTime.microseconds t)
  | instant, t => BigEndian.ofInt 8 (DateTime.microseconds t)

/-- The integer of a width that bytes are, whatever their number. -/
def integerOfBytes (width : IntegerWidth) (bytes : List UInt8) : Except String width.Carrier :=
  match width.ofInt? (BigEndian.toInt bytes) with
  | some n => .ok n
  | none => .error "out of range integral type conversion attempted"

/-- The time that a number of units is, if it can be held. -/
def timeOfBytes {α : Type} (ofUnits? : Int → Option α) (bytes : List UInt8) : Except String α :=
  (ofUnits? (BigEndian.toInt bytes)).elim (.error "value out of range") .ok

/-- The value of the type that bytes are, or what is wrong with them. -/
def ofBytes (t : DriverType) (bytes : List UInt8) : Except String t.Carrier :=
  match t with
  | bool => .ok (bytes.head?.any (· ≠ 0))
  | int16 => integerOfBytes .small bytes
  | int32 => integerOfBytes .regular bytes
  | int64 => integerOfBytes .big bytes
  | float32 => .ok (Binary32.mk (.ofNat (BigEndian.toNat (bytes.take 4))))
  | float64 => .ok (Binary64.mk (.ofNat (BigEndian.toNat (bytes.take 8))))
  | string =>
    match Utf8.decode bytes with
    | .ok chars => .ok (String.ofList chars)
    | .error e => .error e.message
  | uuid =>
    if bytes.length = 16 then .ok (Guid.mk (.ofNat 128 (BigEndian.toNat bytes)))
    else .error ("invalid length: expected 16 bytes, found " ++ toString bytes.length)
  | .bytes => .ok bytes
  | date =>
    let ofDays? (days : Int) := Date.ofDayNumber? (DateTime.microsecondEpoch.date.dayNumber + days)
    timeOfBytes ofDays? bytes
  | time => timeOfBytes (fun n => some (TimeOfDay.ofMicroseconds n)) bytes
  | dateTime => timeOfBytes DateTime.ofMicroseconds? bytes
  | instant => timeOfBytes DateTime.ofMicroseconds? bytes

end DriverType

/-- A value that the driver takes or gives. -/
structure DriverValue where
  type : DriverType
  content : type.Carrier
deriving DecidableEq

namespace DriverValue

/-- The value as it arrives. -/
def carried (v : DriverValue) : DriverValue := ⟨v.type, v.type.carried v.content⟩

/-- The bytes of the value. -/
def toBytes (v : DriverValue) : List UInt8 := v.type.toBytes v.content

end DriverValue

end Postgres

end TypedSql
