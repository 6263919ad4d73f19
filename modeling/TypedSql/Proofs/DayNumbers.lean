import Mathlib.Data.Nat.Init
import Mathlib.Logic.Function.Basic
import Mathlib.Order.Defs.LinearOrder
import Mathlib.Tactic.IntervalCases
import Mathlib.Tactic.SplitIfs
import TypedSql.Calendar.DateTime
/-!
# Days and seconds in order

The number of a date says how many days lie between it and the first of March of year 0: it grows by
one from each date to the next, over the ends of months, years and leap years, and no two dates have
the same one. So a date and time that is shifted by some seconds lies that many seconds later, and
is determined by its seconds on the calendar.

## Main definitions

- `Date.daysBefore`: the days before the first day of a month.

## Main statements

- `Date.dayNumber_next`, `Date.dayNumber_previous`: neighbouring dates have neighbouring numbers.
- `Date.dayNumber_lt`, `Date.dayNumber_injective`: later dates have greater numbers.
- `DateTime.secondNumber_shift`: a shift adds its seconds.
- `DateTime.eq_of_secondNumber_eq`: what a number of seconds determines.
-/

namespace TypedSql

section Months

/-- The days before the first of March of a year. -/
def daysBeforeMarch (year : Int) : Int := 365 * year + year / 4 - year / 100 + year / 400

/-- The days from the first of March to the first day of a month. -/
def daysFromMarch (month : Nat) : Nat := (153 * ((month + 9) % 12) + 2) / 5

/-- The days before the first day of a month. -/
def daysBefore (year : Int) (month : Nat) : Int :=
  daysBeforeMarch (if month ≤ 2 then year - 1 else year) + daysFromMarch month

/-- The year before the first of March ends with February. -/
theorem daysBeforeMarch_eq (year : Int) :
    daysBeforeMarch year = daysBeforeMarch (year - 1) + daysFromMarch 2 + daysInMonth year 2 := by
  have hfebruary : daysFromMarch 2 = 337 := rfl
  rw [hfebruary, daysInMonth, if_pos rfl]
  simp only [daysBeforeMarch, isLeapYear, Bool.and_eq_true, Bool.or_eq_true, decide_eq_true_eq]
  split_ifs <;> omega

/-- The lengths of the months do not depend on the year, but for that of February. -/
theorem daysFromMarch_succ (year : Int) {month : Nat} (hone : 1 ≤ month) (hlt : month < 12)
    (hne : month ≠ 2) :
    daysFromMarch (month + 1) = daysFromMarch month + daysInMonth year month := by
  interval_cases month <;> first | rfl | contradiction

/-- A month begins where the one before it ends. -/
theorem daysBefore_succ (year : Int) {month : Nat} (hone : 1 ≤ month) (hlt : month < 12) :
    daysBefore year (month + 1) = daysBefore year month + daysInMonth year month := by
  by_cases hfebruary : month = 2
  · subst hfebruary
    show daysBeforeMarch year + (0 : Nat) = daysBeforeMarch (year - 1) + daysFromMarch 2 + _
    rw [daysBeforeMarch_eq year]
    omega
  · have hmonth := daysFromMarch_succ year hone hlt hfebruary
    have hyear : month + 1 ≤ 2 ↔ month ≤ 2 := by omega
    simp only [daysBefore, hyear, hmonth]
    omega

/-- The year ends with the 31 days of December. -/
theorem daysBefore_january (year : Int) : daysBefore (year + 1) 1 = daysBefore year 12 + 31 := by
  show daysBeforeMarch (year + 1 - 1) + (306 : Nat) = daysBeforeMarch year + (275 : Nat) + 31
  rw [Int.add_sub_cancel]
  omega

/-- A later month of the year begins when this one is over. -/
theorem daysBefore_le_of_lt (year : Int) {month month' : Nat} (hone : 1 ≤ month)
    (h : month < month') (hle : month' ≤ 12) :
    daysBefore year month + daysInMonth year month ≤ daysBefore year month' := by
  induction month', h using Nat.le_induction with
  | base => rw [daysBefore_succ year hone hle]
  | succ later hlater ih =>
    rw [daysBefore_succ year (by omega) hle]
    have hbefore := ih (by omega)
    omega

/-- A later year begins when this one is over. -/
theorem daysBefore_january_le {year year' : Int} (h : year < year') :
    daysBefore year 12 + 31 ≤ daysBefore year' 1 := by
  rw [← daysBefore_january]
  show daysBeforeMarch (year + 1 - 1) + (306 : Nat) ≤ daysBeforeMarch (year' - 1) + (306 : Nat)
  unfold daysBeforeMarch
  omega

/-- A month of a later year begins when this one is over. -/
theorem daysBefore_le_of_year_lt {year year' : Int} (h : year < year') {month month' : Nat}
    (hone : 1 ≤ month) (hle : month ≤ 12) (hone' : 1 ≤ month') (hle' : month' ≤ 12) :
    daysBefore year month + daysInMonth year month ≤ daysBefore year' month' := by
  have hdecember : daysBefore year month + daysInMonth year month ≤ daysBefore year 12 + 31 := by
    rcases Nat.lt_or_eq_of_le hle with hlt | rfl
    · have hbefore := daysBefore_le_of_lt year hone hlt le_rfl
      omega
    · rfl
  have hjanuary : daysBefore year' 1 ≤ daysBefore year' month' := by
    rcases Nat.lt_or_eq_of_le hone' with hlt | rfl
    · have hbefore := daysBefore_le_of_lt year' le_rfl hlt hle'
      omega
    · rfl
  have hyears := daysBefore_january_le h
  omega

end Months

namespace Date

theorem dayNumber_eq (d : Date) :
    d.dayNumber = daysBefore d.year d.month + (d.day - 1 : Nat) := rfl

theorem dayNumber_next (d : Date) : d.next.dayNumber = d.dayNumber + 1 := by
  have hone := d.one_le_day
  have hlast := d.day_le
  unfold next
  split_ifs with hday hmonth
  · simp only [dayNumber_eq]
    omega
  · have hbefore := daysBefore_succ d.year d.one_le_month hmonth
    simp only [dayNumber_eq, hbefore]
    omega
  · have hdecember : d.month = 12 := by
      have := d.month_le
      omega
    have hbefore := daysBefore_january d.year
    have hlength : daysInMonth d.year d.month = 31 := by rw [hdecember]; rfl
    simp only [dayNumber_eq, firstOfYear, hbefore, hdecember]
    omega

/-- Dates of the same fields are the same. -/
theorem eq_of_fields {d e : Date} (hyear : d.year = e.year) (hmonth : d.month = e.month)
    (hday : d.day = e.day) : d = e := by
  cases d
  cases e
  simp_all

theorem next_previous (d : Date) : d.previous.next = d := by
  have hone := d.one_le_day
  have hmonth := d.one_le_month
  unfold previous
  split_ifs with hday hlater
  · have hle := d.day_le
    have hlt : d.day - 1 < daysInMonth d.year d.month := by omega
    rw [next, dif_pos hlt]
    exact eq_of_fields rfl rfl (Nat.sub_add_cancel hone)
  · have hlt : d.month - 1 < 12 := by
      have := d.month_le
      omega
    rw [next, dif_neg (Nat.lt_irrefl _), dif_pos hlt]
    exact eq_of_fields rfl (Nat.sub_add_cancel hmonth) (by show 1 = d.day; omega)
  · have hday' : ¬(lastOfYear (d.year - 1)).day <
        daysInMonth (lastOfYear (d.year - 1)).year (lastOfYear (d.year - 1)).month :=
      Nat.lt_irrefl 31
    have hmonth' : ¬(lastOfYear (d.year - 1)).month < 12 := Nat.lt_irrefl 12
    rw [next, dif_neg hday', dif_neg hmonth']
    exact eq_of_fields (Int.sub_add_cancel d.year 1) (by show 1 = d.month; omega)
      (by show 1 = d.day; omega)

theorem dayNumber_previous (d : Date) : d.previous.dayNumber = d.dayNumber - 1 := by
  have hnext := d.previous.dayNumber_next
  rw [next_previous] at hnext
  omega

/-- A date of a later month, or of a later year, has a greater number. -/
theorem dayNumber_lt {d e : Date}
    (h : d.year < e.year ∨ d.year = e.year ∧ d.month < e.month) : d.dayNumber < e.dayNumber := by
  -- the month of the first date is over when that of the second one begins
  have hover : daysBefore d.year d.month + daysInMonth d.year d.month ≤
      daysBefore e.year e.month := by
    rcases h with hyear | ⟨hyear, hmonth⟩
    · exact daysBefore_le_of_year_lt hyear d.one_le_month d.month_le e.one_le_month e.month_le
    · rw [← hyear]
      exact daysBefore_le_of_lt d.year d.one_le_month hmonth e.month_le
  have hone := d.one_le_day
  have hlast := d.day_le
  rw [dayNumber_eq, dayNumber_eq]
  omega

theorem dayNumber_injective : Function.Injective dayNumber := by
  intro d e h
  have hyear : d.year = e.year := by
    rcases Int.lt_trichotomy d.year e.year with hlt | heq | hlt
    · exact absurd h (dayNumber_lt (.inl hlt)).ne
    · exact heq
    · exact absurd h (dayNumber_lt (.inl hlt)).ne'
  have hmonth : d.month = e.month := by
    rcases Nat.lt_trichotomy d.month e.month with hlt | heq | hlt
    · exact absurd h (dayNumber_lt (.inr ⟨hyear, hlt⟩)).ne
    · exact heq
    · exact absurd h (dayNumber_lt (.inr ⟨hyear.symm, hlt⟩)).ne'
  have hd := d.one_le_day
  have he := e.one_le_day
  rw [dayNumber_eq, dayNumber_eq, hyear, hmonth] at h
  exact eq_of_fields hyear hmonth (by omega)

end Date

namespace DateTime

theorem shift_nanos (t : DateTime) (offset : Int) (hl : -(secondsPerDay : Int) < offset)
    (hu : offset < secondsPerDay) : (t.shift offset hl hu).time.nanos = t.time.nanos := by
  unfold shift
  simp only
  split_ifs <;> rfl

/-- A shift adds its seconds, also over midnight. -/
theorem secondNumber_shift (t : DateTime) (offset : Int) (hl : -(secondsPerDay : Int) < offset)
    (hu : offset < secondsPerDay) :
    (t.shift offset hl hu).secondNumber = t.secondNumber + offset := by
  have hlt := t.time.seconds_lt
  have hday : (secondsPerDay : Int) = 86400 := rfl
  unfold shift
  simp only
  split_ifs with hbefore hsame
  · simp only [secondNumber, hday, Date.dayNumber_previous]
    omega
  · simp only [secondNumber, hday]
    omega
  · simp only [secondNumber, hday, Date.dayNumber_next]
    omega

/-- The seconds on the calendar and the nanoseconds determine a date and time. -/
theorem eq_of_secondNumber_eq {t u : DateTime} (hseconds : t.secondNumber = u.secondNumber)
    (hnanos : t.time.nanos = u.time.nanos) : t = u := by
  have ht := t.time.seconds_lt
  have hu := u.time.seconds_lt
  have hday : secondsPerDay = 86400 := rfl
  simp only [secondNumber, hday] at hseconds ht hu
  have hdate : t.date = u.date := Date.dayNumber_injective (by omega)
  rw [hdate] at hseconds
  have htime : t.time.seconds = u.time.seconds := by omega
  obtain ⟨date, ⟨seconds, nanos, _, _⟩⟩ := t
  obtain ⟨date', ⟨seconds', nanos', _, _⟩⟩ := u
  simp_all

end DateTime

end TypedSql
