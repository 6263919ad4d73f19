import TypedSql.Errors
/-!
# Column types

The types that values of columns have in a program: the native types, keys (a value tagged with
the kind of entity it identifies) and enumerations (variants stored as integers). Each has a
declared SQL type, a native form of its values, a reading of native values, and a value that
stands in where a `NULL` is read from a column that should not hold one.

## Main definitions

- `Enumeration`: variants and the integers that they are stored as.
- `ColumnType`: the types; `ColumnType.Carrier`: their values.
- `ColumnType.toValue`, `ColumnType.ofValue`: to and from native values.
- `ColumnType.nullDefault`: what a `NULL` reads as.

## Design notes

Reading is more generous than writing. Integers of any width are accepted where the number is in
range, truth values may be integers, floating-point numbers may be integers or have the other
width, identifiers may be text, and the date and time types convert where a part is missing.
-/

namespace TypedSql

/-- The values of a native type. -/
def SqlType.Carrier : SqlType → Type
  | bool => Bool
  | tinyInt => IntegerWidth.tiny.Carrier
  | smallInt => IntegerWidth.small.Carrier
  | int => IntegerWidth.regular.Carrier
  | bigInt => IntegerWidth.big.Carrier
  | real => Binary32
  | double => Binary64
  | text => String
  | guid => Guid
  | blob => List UInt8
  | date => Date
  | time => TimeOfDay
  | dateTime => DateTime
  | dateTimeOffset => OffsetDateTime

/-- A type of variants that are stored as integers of one width. -/
structure Enumeration where
  typeName : String
  width : IntegerWidth
  size : Nat
  stored : Fin size → width.Carrier
  ofStored? : width.Carrier → Option (Fin size)
  default : Fin size

/-- The enumeration whose variants are stored as the given integers, of which the first is the
default. There must be one, and all must be in range. -/
def Enumeration.ofIntegers? (typeName : String) (width : IntegerWidth) (stored : List Int) :
    Option Enumeration := do
  let integers ← stored.mapM width.ofInt?
  if h : 0 < integers.length then
    some
      { typeName, width, size := integers.length
        stored := fun v => integers[v]
        ofStored? := fun n =>
          (List.finRange integers.length).find? fun v => width.toInt integers[v] = width.toInt n
        default := ⟨0, h⟩ }
  else none

/-- Reading what was stored gives the variant back. -/
def Enumeration.Faithful (e : Enumeration) : Prop :=
  ∀ v, e.ofStored? (e.stored v) = some v

/-- A value that identifies an entity of the named kind. -/
structure Key (entity : String) (α : Type) where
  value : α
deriving DecidableEq

/-- The types of columns. -/
inductive ColumnType where
  | native (type : SqlType)
  | key (entity : String) (wrapped : ColumnType)
  | enumeration (e : Enumeration)

/-- What an integer of another width, or a value of another type, reads as. -/
def IntegerWidth.ofValue (w : IntegerWidth) (v : Value) : Except DecodeError w.Carrier :=
  match v.toInt? with
  | none => .error (.typeMismatch 0 w.sqlType v.typeName)
  | some n =>
    match w.ofInt? n with
    | some c => .ok c
    | none => .error (.outOfRange 0 w.sqlType n)

namespace SqlType

/-- The native form of a value. -/
def toValue : (t : SqlType) → t.Carrier → Value
  | bool, b => .bool b
  | tinyInt, n => IntegerWidth.tiny.toValue n
  | smallInt, n => IntegerWidth.small.toValue n
  | int, n => IntegerWidth.regular.toValue n
  | bigInt, n => IntegerWidth.big.toValue n
  | real, x => .real x
  | double, x => .double x
  | text, s => .text s
  | guid, g => .guid g
  | blob, bytes => .blob bytes
  | date, d => .date d
  | time, t => .time t
  | dateTime, t => .dateTime t
  | dateTimeOffset, t => .dateTimeOffset t

/-- Reads a native value as a value of the type. -/
def ofValue (t : SqlType) (v : Value) : Except DecodeError t.Carrier :=
  let mismatch : DecodeError := .typeMismatch 0 t v.typeName
  match t with
  | bool =>
    match v with
    | .bool b => .ok b
    | _ =>
      match v.toInt? with
      | some n => .ok (decide (n ≠ 0))
      | none => .error mismatch
  | tinyInt => IntegerWidth.tiny.ofValue v
  | smallInt => IntegerWidth.small.ofValue v
  | int => IntegerWidth.regular.ofValue v
  | bigInt => IntegerWidth.big.ofValue v
  | real =>
    match v with
    | .real x => .ok x
    | .double x => .ok (Binary32.ofDatum x.datum)
    | _ =>
      match v.toInt? with
      | some n => .ok (Binary32.ofDatum (.ofInt n))
      | none => .error mismatch
  | double =>
    match v with
    | .double x => .ok x
    | .real x => .ok (Binary64.ofDatum x.datum)
    | _ =>
      match v.toInt? with
      | some n => .ok (Binary64.ofDatum (.ofInt n))
      | none => .error mismatch
  | text =>
    match v with
    | .text s => .ok s
    | _ => .error mismatch
  | guid =>
    match v with
    | .guid g => .ok g
    | .text s =>
      match Guid.parse? s with
      | some g => .ok g
      | none => .error mismatch
    | _ => .error mismatch
  | blob =>
    match v with
    | .blob bytes => .ok bytes
    | _ => .error mismatch
  | date =>
    match v with
    | .date d => .ok d
    | .dateTime t => .ok t.date
    | _ => .error mismatch
  | time =>
    match v with
    | .time t => .ok t
    | _ => .error mismatch
  | dateTime =>
    match v with
    | .dateTime t => .ok t
    | .dateTimeOffset t => .ok t.utc
    | .date d => .ok ⟨d, .midnight⟩
    | _ => .error mismatch
  | dateTimeOffset =>
    match v with
    | .dateTimeOffset t => .ok t
    | .dateTime t => .ok (.ofUtc t)
    | _ => .error mismatch

/-- What a `NULL` reads as: zero, nothing, or the earliest. -/
def nullDefault : (t : SqlType) → t.Carrier
  | bool => false
  | tinyInt => IntegerWidth.tiny.zero
  | smallInt => IntegerWidth.small.zero
  | int => IntegerWidth.regular.zero
  | bigInt => IntegerWidth.big.zero
  | real => Binary32.zero
  | double => Binary64.zero
  | text => ""
  | guid => Guid.nil
  | blob => []
  | date => Date.earliest
  | time => TimeOfDay.midnight
  | dateTime => DateTime.earliest
  | dateTimeOffset => OffsetDateTime.earliest

end SqlType

namespace ColumnType

/-- The values of a column type. -/
def Carrier : ColumnType → Type
  | native t => t.Carrier
  | key entity t => Key entity t.Carrier
  | enumeration e => Fin e.size

/-- The declared type: a key has that of its value, an enumeration that of its integers. -/
def sqlType : ColumnType → SqlType
  | native t => t
  | key _ t => t.sqlType
  | enumeration e => e.width.sqlType

/-- The native form of a value. -/
def toValue : (t : ColumnType) → t.Carrier → Value
  | native t, x => t.toValue x
  | key _ t, x => t.toValue x.value
  | enumeration e, x => e.width.toValue (e.stored x)

/-- Reads a native value that is not `NULL`. -/
def ofValue : (t : ColumnType) → Value → Except DecodeError t.Carrier
  | native t, v => t.ofValue v
  | key _ t, v => (t.ofValue v).map Key.mk
  | enumeration e, v =>
    match e.width.ofValue v with
    | .error error => .error error
    | .ok n =>
      match e.ofStored? n with
      | some x => .ok x
      | none => .error (.unknownEnumValue e.typeName (e.width.toInt n))

/-- What a `NULL` reads as: a key of its value's stand-in, an enumeration's default variant. -/
def nullDefault : (t : ColumnType) → t.Carrier
  | native t => t.nullDefault
  | key _ t => ⟨t.nullDefault⟩
  | enumeration e => e.default

end ColumnType

end TypedSql
