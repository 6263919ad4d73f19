import TypedSql.Calendar.DateTime
/-!
# Written dates and times

The text of dates, times and offsets in their numeric notation: `2024-02-29`, `13:05:00.250`,
`+02:00`.

## Main definitions

- `Date.text`: year, month and day; a year outside 0 to 9999 has a sign.
- `TimeOfDay.text`: hours to seconds, and a fraction of 3, 6 or 9 digits if there is one.
- `offsetText`: hours and minutes east of UTC, rounded to the nearest minute.
-/

namespace TypedSql

/-- A natural with at least `width` digits. -/
def padded (width n : Nat) : String :=
  let digits := Nat.toDigits 10 n
  String.ofList (List.replicate (width - digits.length) '0' ++ digits)

/-- Four digits, or a sign and at least four digits if the year is outside 0 to 9999. -/
def yearText (year : Int) : String :=
  if year < 0 then "-" ++ padded 4 year.natAbs
  else if year ≤ 9999 then padded 4 year.natAbs
  else "+" ++ padded 4 year.natAbs

/-- Year, month and day. -/
def Date.text (d : Date) : String :=
  yearText d.year ++ "-" ++ padded 2 d.month ++ "-" ++ padded 2 d.day

namespace TimeOfDay

/-- The fraction of the second with as few groups of three digits as it needs. -/
def fractionText (t : TimeOfDay) : String :=
  let nanos := t.nanos % nanosPerSecond
  if nanos = 0 then ""
  else if nanos % 1000000 = 0 then "." ++ padded 3 (nanos / 1000000)
  else if nanos % 1000 = 0 then "." ++ padded 6 (nanos / 1000)
  else "." ++ padded 9 nanos

/-- Hours, minutes, seconds and fraction; a leap second shows as one second more. -/
def text (t : TimeOfDay) : String :=
  padded 2 t.hour ++ ":" ++ padded 2 t.minute ++ ":"
    ++ padded 2 (t.second + t.nanos / nanosPerSecond) ++ t.fractionText

end TimeOfDay

/-- The date, a separator and the time. -/
def DateTime.text (separator : String) (t : DateTime) : String :=
  t.date.text ++ separator ++ t.time.text

/-- The sign, hours and minutes of an offset in seconds. Its size is rounded to the nearest minute,
half a minute upwards. -/
def offsetText (offset : Int) : String :=
  let sign := if offset < 0 then "-" else "+"
  let minutes := (offset.natAbs + 30) / 60
  sign ++ padded 2 (minutes / 60) ++ ":" ++ padded 2 (minutes % 60)

/-- The local date and time, followed by the offset. -/
def OffsetDateTime.text (separator : String) (t : OffsetDateTime) : String :=
  t.toLocal.text separator ++ offsetText t.offset

end TypedSql
