/-!
# Times of day

A time of day counts whole seconds since midnight and nanoseconds on top. The nanoseconds may
reach into a second second, which is how a leap second is held.

## Main definitions

- `TimeOfDay`: seconds since midnight and nanoseconds.
- `TimeOfDay.ofFields?`: from hours, minutes, seconds and nanoseconds.
-/

namespace TypedSql

/-- The number of seconds of a day. -/
def secondsPerDay : Nat := 86400

/-- The number of nanoseconds of a second. -/
def nanosPerSecond : Nat := 1000000000

/-- A time of day; from one second's worth of nanoseconds on it lies in a leap second. -/
structure TimeOfDay where
  seconds : Nat
  nanos : Nat
  seconds_lt : seconds < secondsPerDay
  nanos_lt : nanos < 2 * nanosPerSecond
deriving DecidableEq

namespace TimeOfDay

/-- The beginning of the day. -/
def midnight : TimeOfDay := ⟨0, 0, by decide, by decide⟩

/-- The time of these fields, if there is one; only the last second of a minute may be a leap
second. -/
def ofFields? (hour minute second nanos : Nat) : Option TimeOfDay :=
  if h : hour < 24 ∧ minute < 60 ∧ second < 60 ∧ nanos < 2 * nanosPerSecond
      ∧ (nanosPerSecond ≤ nanos → second = 59) then
    some ⟨3600 * hour + 60 * minute + second, nanos, by unfold secondsPerDay; omega, h.2.2.2.1⟩
  else none

/-- Whole hours since midnight. -/
def hour (t : TimeOfDay) : Nat := t.seconds / 3600

/-- Whole minutes since the hour. -/
def minute (t : TimeOfDay) : Nat := t.seconds / 60 % 60

/-- Whole seconds since the minute. -/
def second (t : TimeOfDay) : Nat := t.seconds % 60

end TimeOfDay

end TypedSql
