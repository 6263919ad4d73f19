import TypedSql.Fragment
import TypedSql.Postgres.WireType
/-!
# Arguments of statements

A parameter is handed to the driver as a value of one of the driver's types, or as a `NULL` of one.
The type of a value is that of the value, and the type of a `NULL` is found from the declaration, so
that the server knows it too.

## Main definitions

- `Value.bound?`: the value that the driver gets.
- `SqlType.nullType`: the type of the driver that a `NULL` is handed over with.
- `Postgres.Argument`: what stands for a parameter.
- `Parameter.bound`, `Parameter.argument`: the argument as it is handed over, and as it arrives.
-/

namespace TypedSql

open Postgres (DriverType DriverValue)

/-- The value that the driver gets. There is none for a `NULL`; the narrowest integers are widened,
and an offset from UTC is left behind. -/
def Value.bound? : Value → Option DriverValue
  | null => none
  | bool b => some ⟨.bool, b⟩
  | tinyInt n => some ⟨.int16, Int16.ofInt n.toNat⟩
  | smallInt n => some ⟨.int16, n⟩
  | int n => some ⟨.int32, n⟩
  | bigInt n => some ⟨.int64, n⟩
  | real x => some ⟨.float32, x⟩
  | double x => some ⟨.float64, x⟩
  | text s => some ⟨.string, s⟩
  | guid g => some ⟨.uuid, g⟩
  | blob bytes => some ⟨.bytes, bytes⟩
  | date d => some ⟨.date, d⟩
  | time t => some ⟨.time, t⟩
  | dateTime t => some ⟨.dateTime, t⟩
  | dateTimeOffset t => some ⟨.instant, t.utc⟩

/-- The type of the driver for a `NULL` that is declared with a type. -/
def SqlType.nullType : SqlType → DriverType
  | bool => .bool
  | tinyInt => .int16
  | smallInt => .int16
  | int => .int32
  | bigInt => .int64
  | real => .float32
  | double => .float64
  | text => .string
  | guid => .uuid
  | blob => .bytes
  | date => .date
  | time => .time
  | dateTime => .dateTime
  | dateTimeOffset => .instant

namespace Postgres

/-- An argument of a statement. -/
inductive Argument where
  | null (type : DriverType)
  | value (v : DriverValue)
deriving DecidableEq

namespace Argument

/-- The type of the server that the argument is sent with. -/
def wireType : Argument → WireType
  | null type => type.wireType
  | value v => v.type.wireType

/-- The argument as it arrives. -/
def carried : Argument → Argument
  | null type => null type
  | value v => value v.carried

end Argument

end Postgres

namespace Parameter

/-- The argument that is handed over for the parameter. -/
def bound (p : Parameter) : Postgres.Argument :=
  match p.value.bound? with
  | none => .null p.type.nullType
  | some v => .value v

/-- The type of the server that the parameter is sent with. -/
def wireType (p : Parameter) : Postgres.WireType := p.bound.wireType

/-- The argument that the server gets for the parameter. -/
def argument (p : Parameter) : Postgres.Argument := p.bound.carried

end Parameter

end TypedSql
