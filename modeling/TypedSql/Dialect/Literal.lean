import TypedSql.Calendar.Notation
import TypedSql.Dialect.Basic
import TypedSql.Number.Shortest
import TypedSql.Text.Delimited
import TypedSql.Value
/-!
# Literals

Values written into the text of a statement. SQL Server spells texts with a national prefix, truth
values as digits and blobs as numbers; PostgreSQL spells everything else than numbers, texts and
truth values as a text with a cast.

## Main definitions

- `Dialect.literal`: the literal of a value.

## Design notes

SQL Server's floating-point types have neither NaN nor infinities, which are written as `NULL`.
-/

namespace TypedSql.Dialect

/-- A text between apostrophes, cast to the named type. -/
def castText (text typeName : String) : String :=
  Delimited.apostrophes text ++ "::" ++ typeName

/-- The literal of a floating-point number. -/
def floatLiteral (d : Dialect) (f : BinaryFormat) (typeName : String) : BinaryDatum → String
  | .finite negative significand exponent => f.finiteText negative significand exponent
  | .nan =>
    match d with
    | sqlServer => "NULL"
    | postgres => castText "NaN" typeName
  | .infinite negative =>
    match d with
    | sqlServer => "NULL"
    | postgres => castText (if negative then "-Infinity" else "Infinity") typeName

/-- A text that only PostgreSQL casts. -/
def quotedLiteral (d : Dialect) (text typeName : String) : String :=
  match d with
  | sqlServer => Delimited.apostrophes text
  | postgres => castText text typeName

/-- What separates a date from a time. -/
def dateTimeSeparator : Dialect → String
  | sqlServer => "T"
  | postgres => " "

/-- The literal of a value. -/
def literal (d : Dialect) : Value → String
  | .null => "NULL"
  | .bool b =>
    match d with
    | sqlServer => if b then "1" else "0"
    | postgres => if b then "TRUE" else "FALSE"
  | .tinyInt n => toString n.toNat
  | .smallInt n => toString n.toInt
  | .int n => toString n.toInt
  | .bigInt n => toString n.toInt
  | .real x => d.floatLiteral .single "float4" x.datum
  | .double x => d.floatLiteral .double "float8" x.datum
  | .text s =>
    match d with
    | sqlServer => "N" ++ Delimited.apostrophes s
    | postgres => Delimited.apostrophes s
  | .guid g => d.quotedLiteral g.text "uuid"
  | .blob bytes =>
    match d with
    | sqlServer => "0x" ++ String.ofList (Hex.ofBytes .upper bytes)
    | postgres => castText ("\\x" ++ String.ofList (Hex.ofBytes .lower bytes)) "bytea"
  | .date day => d.quotedLiteral day.text "date"
  | .time t => d.quotedLiteral t.text "time"
  | .dateTime t => d.quotedLiteral (t.text d.dateTimeSeparator) "timestamp"
  | .dateTimeOffset t => d.quotedLiteral (t.text d.dateTimeSeparator) "timestamptz"

end TypedSql.Dialect
