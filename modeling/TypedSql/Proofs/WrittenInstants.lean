import TypedSql.Calendar.Fields
import TypedSql.Expr.Render
import TypedSql.Proofs.DayNumbers
import TypedSql.Proofs.LiteralReading
/-!
# Reading instants

A reader of dates, times and offsets in their numeric notation, from left to right. The literal of
an instant shows the date and time at its offset, with all of the offset applied, and behind it the
offset in whole minutes. So it denotes the instant only if the offset has no seconds; otherwise it
denotes one that is up to half a minute away.

## Main definitions

- `readDate?`, `readTime?`, `readOffset?`: what is in front of a text, and what follows it.
- `WrittenInstant`: a date and time with an offset; `WrittenInstant.Denotes`: the instant that they
  are.
- `Dialect.readInstant?`: the instant of a literal.

## Main statements

- `readDate?_text`, `readTime?_text`, `readOffset?_offsetText`: what was written is read.
- `Dialect.readInstant?_literal`: the date, time and offset of a literal.
- `literal_denotes_instant_iff`: which literals denote their instants.
-/

namespace TypedSql

section Digits

/-- What can follow digits: nothing, or a text that begins with something else. -/
def EndsDigits (after : List Char) : Prop := ∀ c ∈ after.head?, c.isDigit = false

theorem endsDigits_nil : EndsDigits [] := by rintro c ⟨⟩

theorem endsDigits_cons {c : Char} (h : c.isDigit = false) (cs : List Char) :
    EndsDigits (c :: cs) := by
  rintro _ ⟨⟩
  exact h

theorem EndsDigits.takeWhile_append {digits after : List Char} (h : EndsDigits after)
    (hdigits : ∀ c ∈ digits, c.isDigit) :
    (digits ++ after).takeWhile Char.isDigit = digits ∧
      (digits ++ after).dropWhile Char.isDigit = after := by
  rw [List.takeWhile_append_of_pos hdigits, List.dropWhile_append_of_pos hdigits]
  cases after with
  | nil => exact ⟨List.append_nil digits, rfl⟩
  | cons c cs => simp [h c rfl]

section Padded

variable (width n : Nat)

theorem toList_padded :
    (padded width n).toList =
      List.replicate (width - (Nat.toDigits 10 n).length) '0' ++ Nat.toDigits 10 n := by
  simp [padded]

theorem isDigit_of_mem_padded {c : Char} (h : c ∈ (padded width n).toList) : c.isDigit := by
  rw [toList_padded, List.mem_append] at h
  rcases h with h | h
  · rw [(List.mem_replicate.1 h).2]
    rfl
  · exact Nat.isDigit_of_mem_toDigits (by decide) (by decide) h

theorem ofDigitChars_padded : Nat.ofDigitChars 10 (padded width n).toList 0 = n := by
  rw [toList_padded, Nat.ofDigitChars_append]
  simp [Nat.ofDigitChars_replicate_zero, Nat.ofDigitChars_ten_toDigits]

theorem exists_cons_padded :
    ∃ c cs, (padded width n).toList = c :: cs ∧ c.isDigit := by
  have hne : (padded width n).toList ≠ [] := by simp [toList_padded, Nat.toDigits_ne_nil]
  obtain ⟨c, cs, hcons⟩ := List.exists_cons_of_ne_nil hne
  exact ⟨c, cs, hcons, isDigit_of_mem_padded width n (by simp [hcons])⟩

variable {width n} in
theorem length_padded (hwidth : 0 < width) (h : n < 10 ^ width) :
    (padded width n).toList.length = width := by
  have hle : (Nat.toDigits 10 n).length ≤ width :=
    (Nat.length_toDigits_le_iff (by decide) hwidth).2 h
  rw [toList_padded, List.length_append, List.length_replicate]
  omega

theorem readNatural?_padded {after : List Char} (h : EndsDigits after) :
    readNatural? ((padded width n).toList ++ after) = some (n, after) := by
  obtain ⟨htake, hdrop⟩ := h.takeWhile_append fun _ => isDigit_of_mem_padded width n
  obtain ⟨c, cs, hcons, -⟩ := exists_cons_padded width n
  have hne : (padded width n).toList.isEmpty = false := by rw [hcons]; rfl
  simp [readNatural?, htake, hdrop, hne, ofDigitChars_padded]

end Padded

end Digits

section Readers

/-- What follows a mark in front of a text. -/
def readMark? (mark : Char) : List Char → Option (List Char)
  | c :: cs => if c = mark then some cs else none
  | [] => none

/-- The year in front of a text. It may have a sign. -/
def readYear? : List Char → Option (Int × List Char)
  | '-' :: cs => (readNatural? cs).map fun (year, after) => (-year, after)
  | '+' :: cs => (readNatural? cs).map fun (year, after) => (year, after)
  | cs => (readNatural? cs).map fun (year, after) => (year, after)

/-- The date of a year, a month and a day with hyphens between them. -/
def readDate? (cs : List Char) : Option (Date × List Char) := do
  let (year, cs) ← readYear? cs
  let (month, cs) ← readNatural? (← readMark? '-' cs)
  let (day, cs) ← readNatural? (← readMark? '-' cs)
  return (← Date.ofFields? year month day, cs)

/-- The nanoseconds of the digits behind a point, or none if there is no point. -/
def readFraction : List Char → Nat × List Char
  | '.' :: cs =>
    let digits := cs.takeWhile Char.isDigit
    (Nat.ofDigitChars 10 digits 0 * 10 ^ (9 - digits.length), cs.dropWhile Char.isDigit)
  | cs => (0, cs)

/-- The time of hours, minutes and seconds with colons between them, and a fraction. -/
def readTime? (cs : List Char) : Option (TimeOfDay × List Char) := do
  let (hour, cs) ← readNatural? cs
  let (minute, cs) ← readNatural? (← readMark? ':' cs)
  let (second, cs) ← readNatural? (← readMark? ':' cs)
  let (nanos, cs) := readFraction cs
  return (← TimeOfDay.ofFields? hour minute second nanos, cs)

/-- The seconds of hours and minutes with a colon between them. -/
def readHours? (cs : List Char) : Option (Int × List Char) := do
  let (hours, cs) ← readNatural? cs
  let (minutes, cs) ← readNatural? (← readMark? ':' cs)
  return (3600 * hours + 60 * minutes, cs)

/-- The seconds of an offset with its sign. -/
def readOffset? : List Char → Option (Int × List Char)
  | '+' :: cs => readHours? cs
  | '-' :: cs => (readHours? cs).map fun (seconds, after) => (-seconds, after)
  | _ => none

/-- A date and time, and the seconds that it is ahead of UTC. -/
structure WrittenInstant where
  shown : DateTime
  offset : Int

/-- The date and time less the offset is the instant in UTC. -/
def WrittenInstant.Denotes (w : WrittenInstant) (utc : DateTime) : Prop :=
  w.shown.secondNumber - w.offset = utc.secondNumber ∧ w.shown.time.nanos = utc.time.nanos

instance (w : WrittenInstant) (utc : DateTime) : Decidable (w.Denotes utc) :=
  inferInstanceAs (Decidable (_ ∧ _))

/-- The mark between date and time. -/
def Dialect.timeMark : Dialect → Char
  | sqlServer => 'T'
  | postgres => ' '

/-- What stands behind the text of an instant. -/
def Dialect.instantCast : Dialect → List Char
  | sqlServer => []
  | postgres => [':', ':', 't', 'i', 'm', 'e', 's', 't', 'a', 'm', 'p', 't', 'z']

/-- The instant of a literal. -/
def Dialect.readInstant? (d : Dialect) (cs : List Char) : Option WrittenInstant := do
  match ← d.readLiteral? cs with
  | (.text s, after) =>
    let (date, cs) ← readDate? s.toList
    let (time, cs) ← readTime? (← readMark? d.timeMark cs)
    let (offset, cs) ← readOffset? cs
    if cs = [] ∧ after = d.instantCast then return ⟨⟨date, time⟩, offset⟩ else none
  | _ => none

end Readers

section Reading

variable {after : List Char}

@[simp]
theorem readMark?_cons (mark : Char) (cs : List Char) : readMark? mark (mark :: cs) = some cs :=
  if_pos rfl

theorem readYear?_yearText (year : Int) (h : EndsDigits after) :
    readYear? ((yearText year).toList ++ after) = some (year, after) := by
  have hread := readNatural?_padded 4 year.natAbs h
  unfold yearText
  split_ifs with hnegative hfour
  · have hyear : -(year.natAbs : Int) = year := by omega
    simp [readYear?, hread, hyear, -Nat.cast_natAbs]
  · have hyear : (year.natAbs : Int) = year := by omega
    -- a digit is no sign
    obtain ⟨c, cs, hcons, hdigit⟩ := exists_cons_padded 4 year.natAbs
    rw [hcons, List.cons_append] at hread ⊢
    have hminus : c ≠ '-' := by
      rintro rfl
      cases hdigit
    have hplus : c ≠ '+' := by
      rintro rfl
      cases hdigit
    simp [readYear?, hread, hyear, hminus, hplus, -Nat.cast_natAbs]
  · have hyear : (year.natAbs : Int) = year := by omega
    simp [readYear?, hread, hyear, -Nat.cast_natAbs]

/-- A written date is read. -/
theorem readDate?_text (d : Date) (h : EndsDigits after) :
    readDate? (d.text.toList ++ after) = some (d, after) := by
  have hhyphen (cs : List Char) : EndsDigits ('-' :: cs) := endsDigits_cons rfl cs
  have hfields : Date.ofFields? d.year d.month d.day = some d := d.ofList?_toList
  simp [Date.text, readDate?, readYear?_yearText, readNatural?_padded, hhyphen, h, hfields]

theorem readFraction_padded (width n : Nat) (hwidth : 0 < width) (hn : n < 10 ^ width)
    (h : EndsDigits after) :
    readFraction ('.' :: ((padded width n).toList ++ after)) = (n * 10 ^ (9 - width), after) := by
  obtain ⟨htake, hdrop⟩ := h.takeWhile_append fun _ => isDigit_of_mem_padded width n
  rw [readFraction, htake, hdrop, ofDigitChars_padded, length_padded hwidth hn]

namespace TimeOfDay

variable (t : TimeOfDay)

theorem endsDigits_fractionText (h : EndsDigits after) :
    EndsDigits (t.fractionText.toList ++ after) := by
  have hpoint (text : String) : EndsDigits (("." ++ text).toList ++ after) := by
    simpa using endsDigits_cons (c := '.') rfl _
  unfold fractionText
  simp only
  split_ifs
  · simpa using h
  · exact hpoint _
  · exact hpoint _
  · exact hpoint _

variable (hleap : t.nanos < nanosPerSecond)

include hleap

/-- A written fraction is read to the nanosecond, whatever number of digits it has. -/
theorem readFraction_fractionText (h : EndsDigits after) (hpoint : after.head? ≠ some '.') :
    readFraction (t.fractionText.toList ++ after) = (t.nanos, after) := by
  have hnanos : t.nanos % nanosPerSecond = t.nanos := Nat.mod_eq_of_lt hleap
  have hsecond : nanosPerSecond = 10 ^ 9 := rfl
  unfold fractionText
  simp only [hnanos]
  split_ifs with hzero hmillis hmicros
  · rw [hzero]
    cases after with
    | nil => rfl
    | cons c cs =>
      have hc : c ≠ '.' := fun heq => hpoint (congrArg some heq)
      simp [readFraction, hc]
  · have hread := readFraction_padded 3 (t.nanos / 1000000) (by decide) (by omega) h
    have hvalue : t.nanos / 1000000 * 10 ^ (9 - 3) = t.nanos := by omega
    rw [hvalue] at hread
    simpa using hread
  · have hread := readFraction_padded 6 (t.nanos / 1000) (by decide) (by omega) h
    have hvalue : t.nanos / 1000 * 10 ^ (9 - 6) = t.nanos := by omega
    rw [hvalue] at hread
    simpa using hread
  · simpa using readFraction_padded 9 t.nanos (by decide) (by omega) h

theorem ofFields?_eq : ofFields? t.hour t.minute t.second t.nanos = some t := by
  obtain ⟨seconds, nanos, hseconds, hnanos⟩ := t
  have hday : secondsPerDay = 86400 := rfl
  have hvalid : seconds / 3600 < 24 ∧ seconds / 60 % 60 < 60 ∧ seconds % 60 < 60 ∧
      nanos < 2 * nanosPerSecond ∧ (nanosPerSecond ≤ nanos → seconds % 60 = 59) := by
    refine ⟨by omega, by omega, by omega, hnanos, fun hle => absurd hleap (Nat.not_lt.2 hle)⟩
  have hwhole : 3600 * (seconds / 3600) + 60 * (seconds / 60 % 60) + seconds % 60 = seconds := by
    omega
  simp only [ofFields?, hour, minute, second, dif_pos hvalid, hwhole]

/-- A written time is read. -/
theorem readTime?_text (h : EndsDigits after) (hpoint : after.head? ≠ some '.') :
    readTime? (t.text.toList ++ after) = some (t, after) := by
  have hcolon (cs : List Char) : EndsDigits (':' :: cs) := endsDigits_cons rfl cs
  have hleap' : t.nanos / nanosPerSecond = 0 := Nat.div_eq_of_lt hleap
  simp [text, readTime?, readNatural?_padded, hcolon, hleap', t.endsDigits_fractionText h,
    t.readFraction_fractionText hleap h hpoint, t.ofFields?_eq hleap]

end TimeOfDay

/-- The offset in whole minutes that is nearest to an offset, or of two the larger. -/
def nearestMinutes (offset : Int) : Int :=
  let seconds : Int := 60 * ((offset.natAbs + 30) / 60 : Nat)
  if offset < 0 then -seconds else seconds

/-- Of a written offset, the nearest minutes are read. -/
theorem readOffset?_offsetText (offset : Int) (h : EndsDigits after) :
    readOffset? ((offsetText offset).toList ++ after) = some (nearestMinutes offset, after) := by
  have hcolon (cs : List Char) : EndsDigits (':' :: cs) := endsDigits_cons rfl cs
  have hhours (minutes : Nat) :
      readHours? ((padded 2 (minutes / 60)).toList ++
          ':' :: ((padded 2 (minutes % 60)).toList ++ after)) =
        some (60 * (minutes : Int), after) := by
    have hminutes : 3600 * ((minutes / 60 : Nat) : Int) + 60 * ((minutes % 60 : Nat) : Int) =
        60 * (minutes : Int) := by omega
    simp only [readHours?, readNatural?_padded, hcolon, h, readMark?_cons, Option.bind_eq_bind,
      Option.bind_some, hminutes]
    rfl
  unfold offsetText nearestMinutes
  simp only
  split_ifs <;> simp [readOffset?, hhours]

theorem nearestMinutes_eq_iff (offset : Int) : nearestMinutes offset = offset ↔ 60 ∣ offset := by
  unfold nearestMinutes
  simp only
  split_ifs <;> omega

theorem natAbs_sub_nearestMinutes_le (offset : Int) :
    (offset - nearestMinutes offset).natAbs ≤ 30 := by
  unfold nearestMinutes
  simp only
  split_ifs <;> omega

end Reading

section Literals

variable (d : Dialect)

/-- The literal of an instant is a quoted text, with a cast where the dialect has one. -/
theorem Dialect.readLiteral?_quotedLiteral (text : String) :
    d.readLiteral? (d.quotedLiteral text "timestamptz").toList =
      some (.text text, d.instantCast) := by
  cases d with
  | sqlServer =>
    have hnothing : FollowsLiteral [] := by rintro c ⟨⟩
    simpa [quotedLiteral, Delimited.apostrophes, Delimited.enclose, readLiteral?, instantCast] using
      readText?_doubled hnothing text
  | postgres =>
    have hread : Delimited.read? '\'' (Delimited.doubled '\'' text.toList ++
        '\'' :: instantCast postgres) = some (text.toList, instantCast postgres) :=
      Delimited.read?_doubled text.toList (by decide)
    have hcast : byteaCast.isPrefixOf? (instantCast postgres) = none := by decide
    have htext : readCastText? (Delimited.doubled '\'' text.toList ++
        '\'' :: instantCast postgres) = some (.text text, instantCast postgres) := by
      simp [readCastText?, hread, hcast]
    simpa [quotedLiteral, castText, Delimited.apostrophes, Delimited.enclose, readLiteral?,
      instantCast] using htext

theorem head?_offsetText (offset : Int) :
    (offsetText offset).toList.head? = some (if offset < 0 then '-' else '+') := by
  by_cases hnegative : offset < 0 <;> simp [offsetText, hnegative]

/-- The literal of an instant shows the date and time at its offset, and the nearest minutes of the
offset. -/
theorem Dialect.readInstant?_literal (t : OffsetDateTime)
    (h : t.utc.time.nanos < nanosPerSecond) :
    d.readInstant? (d.literal (.dateTimeOffset t)).toList =
      some ⟨t.toLocal, nearestMinutes t.offset⟩ := by
  have hleap : t.toLocal.time.nanos < nanosPerSecond := by
    rw [OffsetDateTime.toLocal, DateTime.shift_nanos]
    exact h
  -- the sign of the offset ends the digits of the time
  have hends : EndsDigits (offsetText t.offset).toList := by
    intro c hc
    rw [head?_offsetText] at hc
    split_ifs at hc <;> cases hc <;> rfl
  have hpoint : (offsetText t.offset).toList.head? ≠ some '.' := by
    rw [head?_offsetText]
    split_ifs <;> decide
  have hmark (cs : List Char) : EndsDigits (d.timeMark :: cs) := by
    cases d <;> exact endsDigits_cons rfl cs
  have htext : (t.text d.dateTimeSeparator).toList = t.toLocal.date.text.toList ++
      d.timeMark :: (t.toLocal.time.text.toList ++ (offsetText t.offset).toList) := by
    cases d <;> simp [OffsetDateTime.text, DateTime.text, dateTimeSeparator, timeMark]
  have hoffset := readOffset?_offsetText t.offset endsDigits_nil
  rw [List.append_nil] at hoffset
  simp [readInstant?, literal, readLiteral?_quotedLiteral, htext, readDate?_text, hmark,
    TimeOfDay.readTime?_text, hleap, hends, hpoint, hoffset]

end Literals

/-- A written date and time with an offset is one instant. -/
theorem WrittenInstant.Denotes.unique {w : WrittenInstant} {t u : DateTime} (ht : w.Denotes t)
    (hu : w.Denotes u) : t = u :=
  DateTime.eq_of_secondNumber_eq (ht.1.symm.trans hu.1) (ht.2.symm.trans hu.2)

/-- An instant is bound as it is. Its literal is read as a date and time and an offset, which are
the instant and no other one if and only if the offset has no seconds. If it has, they are an
instant up to half a minute away. -/
theorem literal_denotes_instant_iff (d : Dialect) (qualified : Bool) (type : SqlType)
    (t : OffsetDateTime) (h : t.utc.time.nanos < nanosPerSecond) :
    let written := (Expr.value type (.dateTimeOffset t)).render d qualified
    written.bindings = [.fixed type (.dateTimeOffset t)] ∧
    ∃ w, d.readInstant? (written.inlineSql d).toList = some w ∧
      ((∀ utc, w.Denotes utc ↔ utc = t.utc) ↔ 60 ∣ t.offset) ∧
      (w.shown.secondNumber - w.offset - t.utc.secondNumber).natAbs ≤ 30 ∧
      w.shown.time.nanos = t.utc.time.nanos := by
  intro written
  have hinline : written.inlineSql d = d.literal (.dateTimeOffset t) := String.append_empty
  have hseconds : t.toLocal.secondNumber = t.utc.secondNumber + t.offset :=
    t.utc.secondNumber_shift t.offset t.neg_lt_offset t.offset_lt
  have hnanos : t.toLocal.time.nanos = t.utc.time.nanos :=
    t.utc.shift_nanos t.offset t.neg_lt_offset t.offset_lt
  have hlost := natAbs_sub_nearestMinutes_le t.offset
  refine ⟨rfl, ⟨t.toLocal, nearestMinutes t.offset⟩, ?_, ?_, ?_, hnanos⟩
  · rw [hinline]
    exact d.readInstant?_literal t h
  · rw [← nearestMinutes_eq_iff]
    constructor
    · intro hdenotes
      obtain ⟨heq, -⟩ := (hdenotes t.utc).2 rfl
      simp only [hseconds] at heq
      omega
    · intro hoffset utc
      have hutc : WrittenInstant.Denotes ⟨t.toLocal, nearestMinutes t.offset⟩ t.utc :=
        ⟨by simp only [hseconds, hoffset]; omega, hnanos⟩
      exact ⟨fun hdenotes => hdenotes.unique hutc, fun heq => heq ▸ hutc⟩
  · simp only [hseconds]
    omega

/-- Five hours west of UTC. -/
theorem literal_denotes_afternoonWest :
    let t : OffsetDateTime :=
      ⟨⟨⟨2024, 2, 29, by decide, by decide, by decide, by decide⟩,
        ⟨65100, 250000000, by decide, by decide⟩⟩, -18000, by decide, by decide⟩
    t.utc.time.nanos < nanosPerSecond ∧ 60 ∣ t.offset ∧
    ∃ w, Dialect.postgres.readInstant?
        (Fragment.inlineSql .postgres
          ((Expr.value .dateTimeOffset (.dateTimeOffset t)).render .postgres false)).toList =
          some w ∧
      ∀ utc, w.Denotes utc ↔ utc = t.utc := by
  intro t
  have hnanos : t.utc.time.nanos < nanosPerSecond := by decide
  have hminutes : 60 ∣ t.offset := by decide
  obtain ⟨-, w, hread, hdenotes, -⟩ :=
    literal_denotes_instant_iff .postgres false .dateTimeOffset t hnanos
  exact ⟨hnanos, hminutes, w, hread, hdenotes.2 hminutes⟩

/-- Half a minute east of UTC: the literal shows the half minute, and a whole one as the offset. -/
theorem literal_misses_halfMinuteEast :
    let t : OffsetDateTime :=
      ⟨⟨⟨2024, 2, 29, by decide, by decide, by decide, by decide⟩,
        ⟨47100, 0, by decide, by decide⟩⟩, 30, by decide, by decide⟩
    Dialect.sqlServer.literal (.dateTimeOffset t) = "'2024-02-29T13:05:30+00:01'" ∧
    Dialect.postgres.literal (.dateTimeOffset t) = "'2024-02-29 13:05:30+00:01'::timestamptz" ∧
    ∀ d : Dialect, ∃ w, d.readInstant? (d.literal (.dateTimeOffset t)).toList = some w ∧
      ¬w.Denotes t.utc := by
  intro t
  refine ⟨by decide +kernel, by decide +kernel, fun d => ?_⟩
  exact ⟨_, d.readInstant?_literal t (by decide), by decide +kernel⟩

end TypedSql
