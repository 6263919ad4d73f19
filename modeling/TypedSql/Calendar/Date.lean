/-!
# Calendar dates

Dates of the proleptic Gregorian calendar: its rules hold for all years, year 0 and negative years
included.

## Main definitions

- `Date`: a year, a month and a day that exists in it.
- `Date.next`, `Date.previous`: the neighbouring days.
- `Date.dayNumber`, `Date.ofDayNumber?`: days counted from the first of March of year 0.
-/

namespace TypedSql

/-- Whether the year has a 29th of February. -/
def isLeapYear (year : Int) : Bool :=
  year % 4 = 0 && (year % 100 ≠ 0 || year % 400 = 0)

/-- The number of days of a month. -/
def daysInMonth (year : Int) (month : Nat) : Nat :=
  if month = 2 then (if isLeapYear year then 29 else 28)
  else if month = 4 ∨ month = 6 ∨ month = 9 ∨ month = 11 then 30
  else 31

theorem twentyEight_le_daysInMonth (year : Int) (month : Nat) : 28 ≤ daysInMonth year month := by
  unfold daysInMonth
  repeat' split
  all_goals omega

/-- A day of the calendar. -/
structure Date where
  year : Int
  month : Nat
  day : Nat
  one_le_month : 1 ≤ month
  month_le : month ≤ 12
  one_le_day : 1 ≤ day
  day_le : day ≤ daysInMonth year month
deriving DecidableEq

namespace Date

/-- The date of these fields, if it exists. -/
def ofFields? (year : Int) (month day : Nat) : Option Date :=
  if h : (1 ≤ month ∧ month ≤ 12) ∧ 1 ≤ day ∧ day ≤ daysInMonth year month then
    some ⟨year, month, day, h.1.1, h.1.2, h.2.1, h.2.2⟩
  else none

/-- The first day of a year. -/
def firstOfYear (year : Int) : Date :=
  ⟨year, 1, 1, by omega, by omega, by omega, by unfold daysInMonth; simp⟩

/-- The last day of a year. -/
def lastOfYear (year : Int) : Date :=
  ⟨year, 12, 31, by omega, by omega, by omega, by unfold daysInMonth; simp⟩

/-- The earliest date that a column can hold; it stands for a missing one. -/
def earliest : Date := firstOfYear (-262143)

/-- The day after. -/
def next (d : Date) : Date :=
  if h : d.day < daysInMonth d.year d.month then
    { d with day := d.day + 1, one_le_day := by omega, day_le := h }
  else if h : d.month < 12 then
    { year := d.year, month := d.month + 1, day := 1
      one_le_month := by omega, month_le := h, one_le_day := by omega
      day_le := by have := twentyEight_le_daysInMonth d.year (d.month + 1); omega }
  else firstOfYear (d.year + 1)

/-- The day before. -/
def previous (d : Date) : Date :=
  if h : 1 < d.day then
    { d with day := d.day - 1, one_le_day := by omega, day_le := by have := d.day_le; omega }
  else if h : 1 < d.month then
    { year := d.year, month := d.month - 1, day := daysInMonth d.year (d.month - 1)
      one_le_month := by omega, month_le := by have := d.month_le; omega
      one_le_day := by have := twentyEight_le_daysInMonth d.year (d.month - 1); omega
      day_le := by omega }
  else lastOfYear (d.year - 1)

/-- Days since the first of March of year 0. Counting years from March puts the leap day last, so
the months before a given one have a number of days that does not depend on the year. -/
def dayNumber (d : Date) : Int :=
  let fromMarch := (d.month + 9) % 12
  let year := if d.month ≤ 2 then d.year - 1 else d.year
  365 * year + year / 4 - year / 100 + year / 400
    + ((153 * fromMarch + 2) / 5 : Nat) + (d.day - 1 : Nat)

/-- The number of days of 400 years, after which the calendar repeats. -/
def daysOfCycle : Nat := 146097

/-- The date with a day number: the year within its cycle first, as if none had more than 365 days
but for the leap days before it, then the month, then the day. -/
def ofDayNumber? (number : Int) : Option Date :=
  let day := (number % daysOfCycle).toNat
  let year := (day - day / 1460 + day / 36524 - day / 146096) / 365
  let dayOfYear := day - (365 * year + year / 4 - year / 100)
  let fromMarch := (5 * dayOfYear + 2) / 153
  let month := if fromMarch < 10 then fromMarch + 3 else fromMarch - 9
  let yearNumber := 400 * (number / daysOfCycle) + year + if month ≤ 2 then 1 else 0
  ofFields? yearNumber month (dayOfYear - (153 * fromMarch + 2) / 5 + 1)

end Date

end TypedSql
