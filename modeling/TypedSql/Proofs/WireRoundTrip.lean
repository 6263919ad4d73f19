import TypedSql.ColumnType
import TypedSql.Postgres.Column
import TypedSql.Proofs.LiteralReading
/-!
# Values through PostgreSQL

A value is sent with a type of the server and read back by the name of that type. The types that
values are handed to the driver with, those of a `NULL` and those that columns are read as are three
tables, which have to agree. On the way the narrowest integers become wider, instants lose their
offsets and times what lies below a microsecond. Reading is generous enough to undo the first, and
the others lose nothing of whole microseconds but the offset that an instant is shown at.

## Main definitions

- `ColumnType.IsFaithful`: its enumeration, if it has one, reads back what it stores.
- `ColumnType.IsWhole`: a value without leap seconds and without parts of microseconds.
- `ColumnType.Agrees`: two values are the same, or the same instant.
- `Value.Returns`: what is read where a value was sent.

## Main statements

- `TimeOfDay.IsWhole.truncated`, `DateTime.IsWhole.truncated`: whole microseconds are kept.
- `Value.exists_bound?_eq`: a `NULL` is handed over with the type that values of its type are.
- `ColumnType.exists_returns`: what is read, where a value was sent, reads as the value.
- `Postgres.values_round_trip`: values and `NULL` of each column type.
-/

namespace TypedSql

section Whole

/-- Neither in a leap second nor between two microseconds. -/
structure TimeOfDay.IsWhole (t : TimeOfDay) : Prop where
  nanos_lt : t.nanos < nanosPerSecond
  nanos_mod : t.nanos % nanosPerMicro = 0

def DateTime.IsWhole (t : DateTime) : Prop := t.time.IsWhole

theorem DateTime.carried_eq {t : DateTime} (h : t.time.nanos < nanosPerSecond) : t.carried = t := by
  rw [carried, if_neg (Nat.not_le.2 h)]

theorem TimeOfDay.withNanos_eq {t : TimeOfDay} {nanos : Nat} (hnanos : nanos = t.nanos)
    (h : nanos < 2 * nanosPerSecond) : t.withNanos nanos h = t := by
  subst hnanos
  rfl

theorem TimeOfDay.IsWhole.floorMicro {t : TimeOfDay} (h : t.IsWhole) : t.floorMicro = t :=
  TimeOfDay.withNanos_eq (by rw [h.nanos_mod, Nat.sub_zero]) _

theorem TimeOfDay.IsWhole.truncated {t : TimeOfDay} (h : t.IsWhole) : t.truncated = t := by
  rw [TimeOfDay.truncated, DateTime.carried_eq h.nanos_lt]
  exact h.floorMicro

theorem DateTime.ceilMicro_eq {nanos : Nat} (h : nanos % nanosPerMicro = 0) :
    ceilMicro nanos = nanos := by
  unfold ceilMicro nanosPerMicro at *
  omega

/-- On either side of the year 2000 there is nothing to cut off. -/
theorem DateTime.IsWhole.truncated {t : DateTime} (h : t.IsWhole) : t.truncated = t := by
  have hcarried : t.carried = t := DateTime.carried_eq h.nanos_lt
  have hlt : t.time.nanos < nanosPerSecond := h.nanos_lt
  have hup : t.time.withNanos (DateTime.ceilMicro t.time.nanos)
      (DateTime.ceilMicro_lt _ hlt) = t.time :=
    TimeOfDay.withNanos_eq (DateTime.ceilMicro_eq h.nanos_mod) _
  have hdown : t.time.floorMicro = t.time := TimeOfDay.IsWhole.floorMicro h
  simp only [DateTime.truncated, hcarried, hlt, dif_pos, hup, hdown]
  split <;> rfl

end Whole

section Types

/-- The enumeration of the type, if it has one, reads back what it stores. -/
def ColumnType.IsFaithful : ColumnType → Prop
  | native _ => True
  | key _ t => t.IsFaithful
  | enumeration e => e.Faithful

/-- A value of a native type is whole if all times in it are. -/
def SqlType.IsWhole : (t : SqlType) → t.Carrier → Prop
  | time, x => TimeOfDay.IsWhole x
  | dateTime, x => DateTime.IsWhole x
  | dateTimeOffset, x => DateTime.IsWhole (OffsetDateTime.utc x)
  | _, _ => True

def ColumnType.IsWhole : (t : ColumnType) → t.Carrier → Prop
  | native t, x => t.IsWhole x
  | key _ t, x => t.IsWhole x.value
  | enumeration _, _ => True

/-- Equal values, or the same instant. -/
def SqlType.Agrees : (t : SqlType) → t.Carrier → t.Carrier → Prop
  | dateTimeOffset, x, y => OffsetDateTime.utc x = OffsetDateTime.utc y
  | _, x, y => x = y

def ColumnType.Agrees : (t : ColumnType) → t.Carrier → t.Carrier → Prop
  | native t, x, y => t.Agrees x y
  | key _ t, x, y => t.Agrees x.value y.value
  | enumeration _, x, y => x = y

/-- A value is read where another was sent. It would be handed over like the one that was. -/
def Value.Returns (v v' : Value) : Prop :=
  ∃ x, v.bound? = some x ∧ x.type.wireType.read (.value x.carried) = .ok v' ∧ v'.bound? = some x

theorem IntegerWidth.exists_returns (w : IntegerWidth) (n : w.Carrier) :
    ∃ v, (w.toValue n).Returns v ∧ w.ofValue v = .ok n := by
  have hread {v : Value} (hv : v.toInt? = some (w.toInt n)) : w.ofValue v = .ok n := by
    rw [ofValue, hv]
    simp [IntegerWidth.ofInt?_toInt]
  cases w with
  | tiny =>
    -- the narrowest integers travel in the next width
    have hlt := UInt8.toNat_lt n
    have hwide : (Int16.ofInt (UInt8.toNat n)).toInt = UInt8.toNat n :=
      Int16.toInt_ofInt_of_le (by omega) (by omega)
    exact ⟨.smallInt (Int16.ofInt (UInt8.toNat n)), ⟨_, rfl, rfl, rfl⟩, hread (congrArg some hwide)⟩
  | small => exact ⟨.smallInt n, ⟨_, rfl, rfl, rfl⟩, hread rfl⟩
  | regular => exact ⟨.int n, ⟨_, rfl, rfl, rfl⟩, hread rfl⟩
  | big => exact ⟨.bigInt n, ⟨_, rfl, rfl, rfl⟩, hread rfl⟩

theorem SqlType.exists_returns (t : SqlType) {x : t.Carrier} (h : t.IsWhole x) :
    ∃ v y, (t.toValue x).Returns v ∧ t.ofValue v = .ok y ∧ t.Agrees x y := by
  have hinteger (w : IntegerWidth) (n : w.Carrier) :
      ∃ v y, (w.toValue n).Returns v ∧ w.ofValue v = .ok y ∧ n = y := by
    obtain ⟨v, hreturns, hv⟩ := w.exists_returns n
    exact ⟨v, n, hreturns, hv, rfl⟩
  cases t with
  | tinyInt => exact hinteger .tiny x
  | smallInt => exact hinteger .small x
  | int => exact hinteger .regular x
  | bigInt => exact hinteger .big x
  | time =>
    have hkept : TimeOfDay.truncated x = x := TimeOfDay.IsWhole.truncated h
    exact ⟨.time x, x, ⟨_, rfl, congrArg (Except.ok ∘ Value.time) hkept, rfl⟩, rfl, rfl⟩
  | dateTime =>
    have hkept : DateTime.truncated x = x := DateTime.IsWhole.truncated h
    exact ⟨.dateTime x, x, ⟨_, rfl, congrArg (Except.ok ∘ Value.dateTime) hkept, rfl⟩, rfl, rfl⟩
  | dateTimeOffset =>
    have hkept : (OffsetDateTime.utc x).truncated = x.utc := DateTime.IsWhole.truncated h
    exact ⟨.dateTimeOffset (.ofUtc (OffsetDateTime.utc x)), .ofUtc (OffsetDateTime.utc x),
      ⟨_, rfl, congrArg (Except.ok ∘ Value.dateTimeOffset ∘ OffsetDateTime.ofUtc) hkept, rfl⟩,
      rfl, rfl⟩
  | _ => exact ⟨_, x, ⟨_, rfl, rfl, rfl⟩, rfl, rfl⟩

/-- What is read, where a value was sent, reads as the value. -/
theorem ColumnType.exists_returns {t : ColumnType} (ht : t.IsFaithful) {x : t.Carrier}
    (hx : t.IsWhole x) :
    ∃ v y, (t.toValue x).Returns v ∧ t.ofValue v = .ok y ∧ t.Agrees x y := by
  induction t with
  | native t => exact t.exists_returns hx
  | key entity t ih =>
    obtain ⟨v, y, hreturns, hy, hagrees⟩ := ih ht hx
    refine ⟨v, ⟨y⟩, hreturns, ?_, hagrees⟩
    show (t.ofValue v).map Key.mk = _
    rw [hy]
    rfl
  | enumeration e =>
    obtain ⟨v, hreturns, hv⟩ := e.width.exists_returns (e.stored x)
    have hvariant : e.ofStored? (e.stored x) = some x := ht x
    refine ⟨v, x, hreturns, ?_, rfl⟩
    unfold ofValue
    simp only [hv, hvariant]

theorem IntegerWidth.sqlType?_toValue (w : IntegerWidth) (n : w.Carrier) :
    (w.toValue n).sqlType? = some w.sqlType := by
  cases w <;> rfl

/-- A value has the type that its column type declares. -/
theorem ColumnType.sqlType?_toValue (t : ColumnType) (x : t.Carrier) :
    (t.toValue x).sqlType? = some t.sqlType := by
  induction t with
  | native t => cases t <;> rfl
  | key entity t ih => exact ih x.value
  | enumeration e => exact e.width.sqlType?_toValue (e.stored x)

/-- A value is handed over with the type that a `NULL` is, if it is declared with the type of the
value. -/
theorem Value.exists_bound?_eq {v : Value} {t : SqlType} (h : v.sqlType? = some t) :
    ∃ content, v.bound? = some ⟨t.nullType, content⟩ := by
  cases v <;> cases h <;> exact ⟨_, rfl⟩

/-- So a parameter is sent with the same type whether it is `NULL` or has a value of its type. -/
theorem Parameter.wireType_eq_of_sqlType? {p : Parameter} (h : p.value.sqlType? = some p.type) :
    p.wireType = p.type.nullType.wireType := by
  obtain ⟨content, hbound⟩ := Value.exists_bound?_eq h
  rw [wireType, bound, hbound]
  rfl

end Types

namespace Postgres

theorem WireType.ofSpelling?_spelling (type : WireType) :
    ofSpelling? type.spelling = some type := by
  cases type <;> decide

/-- A column of a type of the server is read by its name. -/
theorem readCell_spelling (ordinal : Nat) {type : WireType} {content : ColumnContent} {v : Value}
    (h : type.read content = .ok v) : readCell ordinal type.spelling content = .ok v := by
  rw [readCell, WireType.ofSpelling?_spelling]
  simp only [h]
  rfl

/-- A value of a column type is read back from a column of the type that it is sent with: integers,
texts and the like as they were, times if they are whole, and instants without their offsets. What
is read would be handed over like the value. A `NULL` that is declared with the column type is sent
with the same type, and is read as one. -/
theorem values_round_trip (t : ColumnType) (ht : t.IsFaithful) (name : String) (ordinal : Nat) :
    let absent : Parameter := ⟨name, t.sqlType, .null⟩
    (∀ x : t.Carrier,
      let p : Parameter := ⟨name, t.sqlType, t.toValue x⟩
      p.wireType = absent.wireType ∧
        (t.IsWhole x → ∃ v y, readCell ordinal p.wireType.spelling p.argument.content = .ok v ∧
          t.ofValue v = .ok y ∧ t.Agrees x y ∧ v.bound? = p.value.bound?)) ∧
    readCell ordinal absent.wireType.spelling absent.argument.content = .ok .null := by
  refine ⟨fun x => ⟨?_, fun hx => ?_⟩, readCell_spelling ordinal rfl⟩
  · exact Parameter.wireType_eq_of_sqlType? (t.sqlType?_toValue x)
  · obtain ⟨v, y, ⟨sent, hbound, hread, hagain⟩, hy, hagrees⟩ := t.exists_returns ht hx
    refine ⟨v, y, ?_, hy, hagrees, hagain.trans hbound.symm⟩
    simp only [Parameter.wireType, Parameter.argument, Parameter.bound, hbound]
    exact readCell_spelling ordinal hread

/-- Two states that are stored as the least and the greatest integer of one byte. -/
def paymentState : Enumeration where
  typeName := "PaymentState"
  width := .tiny
  size := 2
  stored v := if v = 0 then (0 : UInt8) else (255 : UInt8)
  ofStored? := fun n : UInt8 => if n = 0 then some 0 else if n = 255 then some 1 else none
  default := 0

theorem round_trip_paymentState :
    let state : ColumnType := .key "Payment" (.enumeration paymentState)
    let paid : state.Carrier := ⟨(1 : Fin 2)⟩
    let noon : OffsetDateTime :=
      ⟨⟨.firstOfYear 1999, ⟨43200, 500000, by decide, by decide⟩⟩, 3600, by decide, by decide⟩
    state.IsFaithful ∧ (ColumnType.native .dateTimeOffset).IsWhole noon ∧
    (∃ v y, readCell 0 "int2" (.value ⟨.int16, (255 : Int16)⟩) = .ok v ∧ state.ofValue v = .ok y ∧
      y = paid) ∧
    (∃ v, ∃ y : OffsetDateTime, readCell 1 "timestamptz" (.value ⟨.instant, noon.utc⟩) = .ok v ∧
      (ColumnType.native .dateTimeOffset).ofValue v = .ok y ∧ y.utc = noon.utc) ∧
    readCell 0 "int2" .null = .ok .null := by
  intro state paid noon
  have hfaithful : state.IsFaithful := by
    rintro (v : Fin 2)
    match v with
    | ⟨0, _⟩ => rfl
    | ⟨1, _⟩ => rfl
  have hwhole : (ColumnType.native .dateTimeOffset).IsWhole noon := ⟨by decide, by decide⟩
  obtain ⟨hstates, hnull⟩ := values_round_trip state hfaithful "$1" 0
  obtain ⟨htimes, -⟩ := values_round_trip (.native .dateTimeOffset) trivial "$2" 1
  obtain ⟨v, ⟨y⟩, hread, hy, hpaid, -⟩ := (hstates paid).2 trivial
  obtain ⟨v', y', hread', hy', hnoon, -⟩ := (htimes noon).2 hwhole
  have hkept : noon.utc.truncated = noon.utc := DateTime.IsWhole.truncated hwhole
  change readCell 1 "timestamptz" (.value ⟨.instant, noon.utc.truncated⟩) = .ok v' at hread'
  rw [hkept] at hread'
  exact ⟨hfaithful, hwhole, ⟨v, ⟨y⟩, hread, hy, congrArg Key.mk hpaid.symm⟩,
    ⟨v', y', hread', hy', hnoon.symm⟩, hnull⟩

end Postgres

end TypedSql
