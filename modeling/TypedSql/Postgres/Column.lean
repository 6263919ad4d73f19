import TypedSql.Postgres.Argument
import TypedSql.Postgres.Error
/-!
# Columns of rows

A column is read by the name of its type: as a value of one of the driver's types, which is then
made a native value.

## Main definitions

- `Postgres.ColumnContent`: what a row holds in a column.
- `Postgres.WireType.reading`: how columns of a type are read.
- `Postgres.readCell`: the value of a column.
- `Postgres.readRows`: the values of rows.
-/

namespace TypedSql.Postgres

/-- What a row holds in a column. -/
inductive ColumnContent where
  | null
  | value (v : DriverValue)
  | bytes (content : List UInt8)

/-- What a column holds that the server fills with an argument. -/
def Argument.content : Argument → ColumnContent
  | null _ => .null
  | value v => .value v

/-- Reads a content as a type of the driver. A value of that type is there as it was sent, and of
any other the bytes are read anew. -/
def ColumnContent.decode (t : DriverType) : ColumnContent → Except String (Option t.Carrier)
  | null => .ok none
  | value v =>
    if h : v.type = t then .ok (some (h ▸ v.content)) else (t.ofBytes v.toBytes).map some
  | bytes content => (t.ofBytes content).map some

/-- A type of the driver, and the native values for its values. -/
structure Reading where
  type : DriverType
  toValue : type.Carrier → Value

namespace WireType

/-- How columns of the type are read. -/
def reading : WireType → Reading
  | bool => ⟨.bool, Value.bool⟩
  | int2 => ⟨.int16, Value.smallInt⟩
  | int4 => ⟨.int32, Value.int⟩
  | int8 => ⟨.int64, Value.bigInt⟩
  | float4 => ⟨.float32, Value.real⟩
  | float8 => ⟨.float64, Value.double⟩
  | text | varchar | bpchar | name => ⟨.string, Value.text⟩
  | uuid => ⟨.uuid, Value.guid⟩
  | bytea => ⟨.bytes, Value.blob⟩
  | date => ⟨.date, Value.date⟩
  | time => ⟨.time, Value.time⟩
  | timestamp => ⟨.dateTime, Value.dateTime⟩
  | timestamptz => ⟨.instant, fun t : DateTime => .dateTimeOffset (.ofUtc t)⟩

/-- The value of a content in a column of the type, or what is wrong with it. -/
def read (type : WireType) (content : ColumnContent) : Except String Value :=
  (content.decode type.reading.type).map fun x? => x?.elim .null type.reading.toValue

end WireType

/-- The value of a column whose type has a spelling. In a column of a type without values every
content is an error, `NULL` too. -/
def readCell (ordinal : Nat) (spelling : String) (content : ColumnContent) : Except Error Value :=
  match WireType.ofSpelling? spelling with
  | none => .error (.unsupportedType ordinal (typeLabel spelling))
  | some type => (type.read content).mapError fun text => .database (.columnDecode ordinal text)

/-- The values of the columns from an ordinal on; the first that cannot be read is an error. -/
def readCellsFrom (ordinal : Nat) : List (String × ColumnContent) → Except Error (List Value)
  | [] => .ok []
  | (spelling, content) :: rest =>
    match readCell ordinal spelling content with
    | .error e => .error e
    | .ok v => (readCellsFrom (ordinal + 1) rest).map (v :: ·)

/-- The values of rows, in order. -/
def readRows (columns : List String) :
    List (List ColumnContent) → Except Error (List (List Value))
  | [] => .ok []
  | row :: rest =>
    match readCellsFrom 0 (columns.zip row) with
    | .error e => .error e
    | .ok values => (readRows columns rest).map (values :: ·)

end TypedSql.Postgres
