import TypedSql.Calendar.DateTime
/-!
# Whole microseconds

Times as they are kept where a microsecond is the smallest unit and there are no leap seconds.

## Main definitions

- `DateTime.carried`: a leap second as the first second of the next minute.
- `TimeOfDay.truncated`: a time of day on the microsecond before it.
- `DateTime.truncated`: a date and time on the microsecond towards the year 2000.
- `DateTime.microseconds`, `DateTime.ofMicroseconds?`, `TimeOfDay.microseconds`,
  `TimeOfDay.ofMicroseconds`: dates and times as numbers of microseconds.
-/

namespace TypedSql

/-- The number of nanoseconds of a microsecond. -/
def nanosPerMicro : Nat := 1000

/-- The number of microseconds of a second. -/
def microsPerSecond : Nat := 1000000

/-- The time `nanos` after a whole second. -/
def TimeOfDay.withNanos (t : TimeOfDay) (nanos : Nat) (h : nanos < 2 * nanosPerSecond) :
    TimeOfDay :=
  ⟨t.seconds, nanos, t.seconds_lt, h⟩

/-- The same time without a leap second: what exceeds a second is carried. -/
def DateTime.carried (t : DateTime) : DateTime :=
  if nanosPerSecond ≤ t.time.nanos then
    let later := t.shift 1 (by decide) (by decide)
    ⟨later.date, later.time.withNanos (t.time.nanos - nanosPerSecond)
      (Nat.lt_of_le_of_lt (Nat.sub_le _ _) t.time.nanos_lt)⟩
  else t

/-- The time of day without what lies below a microsecond. -/
def TimeOfDay.floorMicro (t : TimeOfDay) : TimeOfDay :=
  t.withNanos (t.nanos - t.nanos % nanosPerMicro)
    (Nat.lt_of_le_of_lt (Nat.sub_le _ _) t.nanos_lt)

/-- The time of day without what lies below a microsecond. A leap second at the end of the day
becomes its beginning. -/
def TimeOfDay.truncated (t : TimeOfDay) : TimeOfDay :=
  (DateTime.carried ⟨.earliest, t⟩).time.floorMicro

/-- The microseconds since midnight. -/
def TimeOfDay.microseconds (t : TimeOfDay) : Nat :=
  t.seconds * microsPerSecond + t.nanos / nanosPerMicro

/-- The time of day so many microseconds after some midnight. -/
def TimeOfDay.ofMicroseconds (n : Int) : TimeOfDay :=
  let micros := (n % (secondsPerDay * microsPerSecond : Nat)).toNat
  ⟨micros / microsPerSecond, micros % microsPerSecond * nanosPerMicro,
    by unfold micros secondsPerDay microsPerSecond; omega,
    by unfold nanosPerSecond microsPerSecond nanosPerMicro; omega⟩

namespace DateTime

/-- The instant from which whole microseconds are counted. -/
def microsecondEpoch : DateTime := ⟨.firstOfYear 2000, .midnight⟩

/-- The nanoseconds up to the next whole microsecond. -/
def ceilMicro (nanos : Nat) : Nat := (nanos + (nanosPerMicro - 1)) / nanosPerMicro * nanosPerMicro

theorem ceilMicro_lt (nanos : Nat) (h : nanos < nanosPerSecond) :
    ceilMicro nanos < 2 * nanosPerSecond := by
  unfold ceilMicro nanosPerMicro nanosPerSecond at *
  omega

/-- The time on the microsecond that lies towards the year 2000. -/
def truncated (t : DateTime) : DateTime :=
  let t := t.carried
  if t.secondNumber < microsecondEpoch.secondNumber then
    if h : t.time.nanos < nanosPerSecond then
      carried ⟨t.date, t.time.withNanos (ceilMicro t.time.nanos) (ceilMicro_lt _ h)⟩
    else t
  else ⟨t.date, t.time.floorMicro⟩

/-- The whole microseconds since the beginning of the year 2000. -/
def microseconds (t : DateTime) : Int :=
  let t := t.truncated
  (t.secondNumber - microsecondEpoch.secondNumber) * microsPerSecond
    + (t.time.nanos / nanosPerMicro : Nat)

/-- The date and time so many microseconds after the beginning of the year 2000. -/
def ofMicroseconds? (n : Int) : Option DateTime :=
  let days := n / (secondsPerDay * microsPerSecond : Nat)
  (Date.ofDayNumber? (microsecondEpoch.date.dayNumber + days)).map (⟨·, .ofMicroseconds n⟩)

end DateTime

end TypedSql
