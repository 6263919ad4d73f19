import TypedSql.Calendar.DateTime
/-!
# Dates and times as lists of fields

The fields of a date or time as numbers, from the largest to the smallest. An instant is listed by
its fields in UTC and its offset in seconds.

## Main definitions

- `Date.toList`, `TimeOfDay.toList`, `DateTime.toList`, `OffsetDateTime.toList`: the fields.
- `Date.ofList?` and its companions: the value of these fields, if there is one.

## Main statements

- `Date.ofList?_toList`: a date is read back from its fields.
-/

namespace TypedSql

/-- Year, month and day. -/
def Date.toList (d : Date) : List Int := [d.year, d.month, d.day]

/-- The date of a year, a month and a day. -/
def Date.ofList? : List Int → Option Date
  | [year, .ofNat month, .ofNat day] => Date.ofFields? year month day
  | _ => none

theorem Date.ofList?_toList (d : Date) : Date.ofList? d.toList = some d := by
  show Date.ofFields? d.year d.month d.day = some d
  rw [Date.ofFields?, dif_pos ⟨⟨d.one_le_month, d.month_le⟩, d.one_le_day, d.day_le⟩]

/-- Hour, minute, second and nanoseconds. -/
def TimeOfDay.toList (t : TimeOfDay) : List Int := [t.hour, t.minute, t.second, t.nanos]

/-- The time of an hour, a minute, a second and nanoseconds. -/
def TimeOfDay.ofList? : List Int → Option TimeOfDay
  | [.ofNat hour, .ofNat minute, .ofNat second, .ofNat nanos] =>
    TimeOfDay.ofFields? hour minute second nanos
  | _ => none

/-- The fields of the date, then those of the time. -/
def DateTime.toList (t : DateTime) : List Int := t.date.toList ++ t.time.toList

/-- The date and time of seven fields. -/
def DateTime.ofList? (fields : List Int) : Option DateTime := do
  return ⟨← Date.ofList? (fields.take 3), ← TimeOfDay.ofList? (fields.drop 3)⟩

/-- The fields in UTC, then the offset. -/
def OffsetDateTime.toList (t : OffsetDateTime) : List Int := t.utc.toList ++ [t.offset]

/-- The instant of seven fields in UTC and an offset. -/
def OffsetDateTime.ofList? (fields : List Int) : Option OffsetDateTime := do
  ofOffset? (← DateTime.ofList? (fields.take 7)) (← fields[7]?)

end TypedSql
