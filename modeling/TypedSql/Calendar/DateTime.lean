import TypedSql.Calendar.Date
import TypedSql.Calendar.TimeOfDay
/-!
# Dates with times

A date with a time of day, and an instant with an offset from UTC. An instant keeps its fields in
UTC; the offset says at which local time it is shown.

## Main definitions

- `DateTime`: a date and a time of day.
- `OffsetDateTime`: an instant and an offset.
- `OffsetDateTime.toLocal`: the fields that a clock at that offset shows.
- `DateTime.secondNumber`: whole seconds on the calendar, for comparing instants.
-/

namespace TypedSql

/-- A date and a time of day. -/
structure DateTime where
  date : Date
  time : TimeOfDay
deriving DecidableEq

/-- An instant, with the offset east of UTC, in seconds, at which it is shown. -/
structure OffsetDateTime where
  utc : DateTime
  offset : Int
  neg_lt_offset : -(secondsPerDay : Int) < offset
  offset_lt : offset < secondsPerDay
deriving DecidableEq

namespace DateTime

/-- The earliest date at midnight. -/
def earliest : DateTime := ⟨.earliest, .midnight⟩

/-- Whole seconds since midnight of the first of March of year 0. -/
def secondNumber (t : DateTime) : Int :=
  secondsPerDay * t.date.dayNumber + t.time.seconds

/-- The date and time that is `offset` seconds later, for less than a day. The nanoseconds stay as
they are, so a leap second stays one. -/
def shift (t : DateTime) (offset : Int) (hl : -(secondsPerDay : Int) < offset)
    (hu : offset < secondsPerDay) : DateTime :=
  let total : Int := t.time.seconds + offset
  have seconds_lt := t.time.seconds_lt
  if _h : total < 0 then
    ⟨t.date.previous, (total + secondsPerDay).toNat, t.time.nanos, by omega, t.time.nanos_lt⟩
  else if _h' : total < secondsPerDay then
    ⟨t.date, total.toNat, t.time.nanos, by omega, t.time.nanos_lt⟩
  else
    ⟨t.date.next, (total - secondsPerDay).toNat, t.time.nanos, by omega, t.time.nanos_lt⟩

end DateTime

namespace OffsetDateTime

/-- The instant of a date and time in UTC, shown in UTC. -/
def ofUtc (t : DateTime) : OffsetDateTime := ⟨t, 0, by decide, by decide⟩

/-- The earliest instant. -/
def earliest : OffsetDateTime := ofUtc .earliest

/-- The instant with an offset, if the offset is less than a day. -/
def ofOffset? (utc : DateTime) (offset : Int) : Option OffsetDateTime :=
  if h : -(secondsPerDay : Int) < offset ∧ offset < secondsPerDay then
    some ⟨utc, offset, h.1, h.2⟩
  else none

/-- The date and time shown at the offset. -/
def toLocal (t : OffsetDateTime) : DateTime := t.utc.shift t.offset t.neg_lt_offset t.offset_lt

end OffsetDateTime

end TypedSql
