import TypedSql.Proofs.WireRoundTrip
/-!
# Values of column types

A value of a column type has a native form that reads back as the value. Types whose values are
integers read more than what they write: any native integer, whatever its width, is read as the
number that it is. One that lies outside the range of the type, one that no variant of an
enumeration is stored as, and a value that is no integer each have their own error.

## Main definitions

- `Value.IsInteger`: a native integer of some width, and its number.
- `ColumnType.integers?`: the width that the values of a type are kept in.
- `ColumnType.IsNumber`: the number that a value stands for.
- `ReadsIntegers`: reading goes by the number only.

## Main statements

- `IntegerWidth.ofInt?_eq_some_iff`: narrowing keeps the number.
- `ColumnType.ofValue_toValue`: native forms read back.
- `ColumnType.readsIntegers`: types of integers read any width.
- `column_values_read_back`: both.
-/

namespace TypedSql

section Integers

/-- A native integer of one of the widths, with its number. -/
def Value.IsInteger (v : Value) (n : Int) : Prop :=
  ∃ (w : IntegerWidth) (c : w.Carrier), v = w.toValue c ∧ w.toInt c = n

theorem Value.toInt?_eq_some_iff {v : Value} {n : Int} : v.toInt? = some n ↔ v.IsInteger n := by
  constructor
  · intro h
    cases v with
    | tinyInt c => exact ⟨.tiny, c, rfl, Option.some.inj h⟩
    | smallInt c => exact ⟨.small, c, rfl, Option.some.inj h⟩
    | int c => exact ⟨.regular, c, rfl, Option.some.inj h⟩
    | bigInt c => exact ⟨.big, c, rfl, Option.some.inj h⟩
    | _ => cases h
  · rintro ⟨w, c, rfl, rfl⟩
    cases w <;> rfl

theorem Value.toInt?_eq_none_iff {v : Value} : v.toInt? = none ↔ ∀ n, ¬v.IsInteger n := by
  simp only [← toInt?_eq_some_iff]
  exact Option.eq_none_iff_forall_ne_some

namespace IntegerWidth

variable (w : IntegerWidth)

/-- The numbers of a width. -/
def InRange (n : Int) : Prop := w.lowest ≤ n ∧ n ≤ w.highest

instance (n : Int) : Decidable (w.InRange n) := inferInstanceAs (Decidable (_ ∧ _))

/-- Narrowing to a width keeps the number. -/
theorem ofInt?_eq_some_iff {n : Int} {c : w.Carrier} : w.ofInt? n = some c ↔ w.toInt c = n := by
  constructor
  · intro h
    unfold ofInt? at h
    split_ifs at h with hrange
    obtain ⟨hlow, hhigh⟩ := hrange
    cases Option.some.inj h
    cases w with
    | tiny =>
      have hlow' : 0 ≤ n := hlow
      have hlt : n.toNat < 2 ^ 8 := by
        have hhigh' : n ≤ 255 := hhigh
        omega
      show ((UInt8.ofNat n.toNat).toNat : Int) = n
      rw [UInt8.toNat_ofNat_of_lt' hlt]
      omega
    | small => exact Int16.toInt_ofInt_of_le hlow (Int.lt_add_one_of_le hhigh)
    | regular => exact Int32.toInt_ofInt_of_le hlow (Int.lt_add_one_of_le hhigh)
    | big => exact Int64.toInt_ofInt_of_le hlow (Int.lt_add_one_of_le hhigh)
  · rintro rfl
    exact w.ofInt?_toInt c

theorem ofInt?_eq_none_iff {n : Int} : w.ofInt? n = none ↔ ¬w.InRange n := by
  unfold ofInt? InRange
  split_ifs with hrange <;> simp [hrange]

theorem exists_toInt_eq {n : Int} (h : w.InRange n) : ∃ c, w.toInt c = n := by
  cases hc : w.ofInt? n with
  | none => exact absurd h (w.ofInt?_eq_none_iff.1 hc)
  | some c => exact ⟨c, w.ofInt?_eq_some_iff.1 hc⟩

theorem inRange_toInt (c : w.Carrier) : w.InRange (w.toInt c) := by
  by_contra hrange
  have hnone := w.ofInt?_eq_none_iff.2 hrange
  rw [w.ofInt?_toInt] at hnone
  cases hnone

/-- What is read of an integer depends on its number only. -/
theorem ofValue_of_isInteger {v : Value} {n : Int} (h : v.IsInteger n) :
    w.ofValue v =
      match w.ofInt? n with
      | some c => .ok c
      | none => .error (.outOfRange 0 w.sqlType n) := by
  have hnumber := Value.toInt?_eq_some_iff.2 h
  cases hc : w.ofInt? n with
  | none => simp only [ofValue, hnumber, hc]
  | some c => simp only [ofValue, hnumber, hc]

theorem ofValue_of_not_isInteger {v : Value} (h : ∀ n, ¬v.IsInteger n) :
    w.ofValue v = .error (.typeMismatch 0 w.sqlType v.typeName) := by
  unfold ofValue
  rw [Value.toInt?_eq_none_iff.2 h]

theorem ofValue_eq_ok_iff {v : Value} {c : w.Carrier} :
    w.ofValue v = .ok c ↔ v.IsInteger (w.toInt c) := by
  constructor
  · intro h
    by_cases hinteger : ∃ n, v.IsInteger n
    · obtain ⟨n, hn⟩ := hinteger
      rw [w.ofValue_of_isInteger hn] at h
      cases hc : w.ofInt? n with
      | none => simp [hc] at h
      | some c' =>
        rw [hc] at h
        cases h
        rw [w.ofInt?_eq_some_iff.1 hc]
        exact hn
    · rw [w.ofValue_of_not_isInteger (not_exists.1 hinteger)] at h
      cases h
  · intro h
    rw [w.ofValue_of_isInteger h, w.ofInt?_toInt]

theorem isInteger_toValue {c : w.Carrier} {n : Int} :
    (w.toValue c).IsInteger n ↔ w.toInt c = n := by
  have hnumber : (w.toValue c).toInt? = some (w.toInt c) := by cases w <;> rfl
  rw [← Value.toInt?_eq_some_iff, hnumber, Option.some_inj]

theorem ofValue_toValue (c : w.Carrier) : w.ofValue (w.toValue c) = .ok c :=
  w.ofValue_eq_ok_iff.2 (w.isInteger_toValue.2 rfl)

end IntegerWidth

/-- A reading of native values goes by their numbers. It yields the value that stands for the number
of an integer in range, whatever the width of the integer. For all else there is one error each: an
integer out of range, one that no value stands for, which only an enumeration can have, and a value
that is no integer. -/
structure ReadsIntegers {α : Type} (w : IntegerWidth) (IsNumber : α → Int → Prop)
    (enumeration? : Option String) (read : Value → Except DecodeError α) : Prop where
  ok_iff : ∀ v x, read v = .ok x ↔ ∃ n, v.IsInteger n ∧ w.InRange n ∧ IsNumber x n
  of_not_inRange : ∀ v n, v.IsInteger n → ¬w.InRange n →
    read v = .error (.outOfRange 0 w.sqlType n)
  of_not_isNumber : ∀ v n, v.IsInteger n → w.InRange n → (∀ x, ¬IsNumber x n) →
    ∃ name, enumeration? = some name ∧ read v = .error (.unknownEnumValue name n)
  of_not_isInteger : ∀ v, (∀ n, ¬v.IsInteger n) →
    read v = .error (.typeMismatch 0 w.sqlType v.typeName)

theorem IntegerWidth.readsIntegers (w : IntegerWidth) :
    ReadsIntegers w (fun c n => (w.toValue c).IsInteger n) none w.ofValue where
  ok_iff v c := by
    simp only [ofValue_eq_ok_iff, isInteger_toValue]
    constructor
    · exact fun h => ⟨_, h, w.inRange_toInt c, rfl⟩
    · rintro ⟨n, h, -, rfl⟩
      exact h
  of_not_inRange v n hinteger hrange := by
    rw [w.ofValue_of_isInteger hinteger, w.ofInt?_eq_none_iff.2 hrange]
  of_not_isNumber v n hinteger hrange hnone := by
    -- every number in range is there
    obtain ⟨c, hc⟩ := w.exists_toInt_eq hrange
    exact absurd (w.isInteger_toValue.2 hc) (hnone c)
  of_not_isInteger v h := w.ofValue_of_not_isInteger h

namespace ReadsIntegers

variable {α : Type} {w : IntegerWidth} {IsNumber : α → Int → Prop} {enumeration? : Option String}
  {read : Value → Except DecodeError α}

/-- A key reads as what it wraps. -/
theorem key (h : ReadsIntegers w IsNumber enumeration? read) (entity : String) :
    ReadsIntegers w (fun (x : Key entity α) n => IsNumber x.value n) enumeration?
      (fun v => (read v).map Key.mk) where
  ok_iff v x := by
    rw [← h.ok_iff v x.value]
    obtain ⟨x⟩ := x
    cases read v with
    | error e => simp [Except.map]
    | ok y => simp [Except.map]
  of_not_inRange v n hinteger hrange := by
    rw [h.of_not_inRange v n hinteger hrange]
    rfl
  of_not_isNumber v n hinteger hrange hnone := by
    obtain ⟨name, hname, herror⟩ :=
      h.of_not_isNumber v n hinteger hrange fun x hx => hnone ⟨x⟩ hx
    exact ⟨name, hname, by rw [herror]; rfl⟩
  of_not_isInteger v hinteger := by
    rw [h.of_not_isInteger v hinteger]
    rfl

end ReadsIntegers

end Integers

section Types

/-- The width of the integers that values of the type are kept as: of an integer type, of an
enumeration and of keys of these. -/
def ColumnType.integers? : ColumnType → Option IntegerWidth
  | native t => t.integerWidth?
  | key _ t => t.integers?
  | enumeration e => some e.width

/-- The name of the enumeration behind the type. -/
def ColumnType.enumeration? : ColumnType → Option String
  | native _ => none
  | key _ t => t.enumeration?
  | enumeration e => some e.typeName

/-- A value stands for a number: an integer for itself, and a variant for what is stored for it. -/
def ColumnType.IsNumber : (t : ColumnType) → t.Carrier → Int → Prop
  | native t, x, n => (t.toValue x).IsInteger n
  | key _ t, x, n => t.IsNumber x.value n
  | enumeration e, x, n => ∃ c, e.width.toInt c = n ∧ e.ofStored? c = some x

theorem SqlType.ofValue_toValue (t : SqlType) (x : t.Carrier) :
    t.ofValue (t.toValue x) = .ok x := by
  cases t with
  | tinyInt => exact IntegerWidth.tiny.ofValue_toValue x
  | smallInt => exact IntegerWidth.small.ofValue_toValue x
  | int => exact IntegerWidth.regular.ofValue_toValue x
  | bigInt => exact IntegerWidth.big.ofValue_toValue x
  | _ => rfl

/-- The native form of a value reads back as the value. -/
theorem ColumnType.ofValue_toValue {t : ColumnType} (ht : t.IsFaithful) (x : t.Carrier) :
    t.ofValue (t.toValue x) = .ok x := by
  induction t with
  | native t => exact t.ofValue_toValue x
  | key entity t ih =>
    show (t.ofValue (t.toValue x.value)).map Key.mk = _
    rw [ih ht]
    rfl
  | enumeration e =>
    have hwidth : e.width.ofValue ((enumeration e).toValue x) = .ok (e.stored x) :=
      e.width.ofValue_toValue (e.stored x)
    have hvariant : e.ofStored? (e.stored x) = some x := ht x
    unfold ofValue
    simp only [hwidth, hvariant]

theorem ColumnType.ofValue_enumeration_eq_ok_iff {e : Enumeration} {v : Value} {x : Fin e.size} :
    (enumeration e).ofValue v = .ok x ↔
      ∃ c, v.IsInteger (e.width.toInt c) ∧ e.ofStored? c = some x := by
  simp only [← IntegerWidth.ofValue_eq_ok_iff]
  unfold ofValue
  cases hc : e.width.ofValue v with
  | error error => simp
  | ok c =>
    cases hx : e.ofStored? c with
    | none => simp [hx]
    | some y =>
      simp only [Except.ok.injEq, exists_eq_left', hx, Option.some.injEq]
      exact ⟨fun h => by cases h; rfl, fun h => by rw [h]⟩

/-- An enumeration reads the integers that its variants are stored as. -/
theorem Enumeration.readsIntegers (e : Enumeration) :
    ReadsIntegers e.width (ColumnType.enumeration e).IsNumber (some e.typeName)
      (ColumnType.enumeration e).ofValue where
  ok_iff v x := by
    refine (ColumnType.ofValue_enumeration_eq_ok_iff (e := e)).trans ?_
    constructor
    · rintro ⟨c, hinteger, hx⟩
      exact ⟨_, hinteger, e.width.inRange_toInt c, c, rfl, hx⟩
    · rintro ⟨_, hinteger, -, c, rfl, hx⟩
      exact ⟨c, hinteger, hx⟩
  of_not_inRange v n hinteger hrange := by
    unfold ColumnType.ofValue
    rw [e.width.readsIntegers.of_not_inRange v n hinteger hrange]
  of_not_isNumber v n hinteger hrange hnone := by
    obtain ⟨c, rfl⟩ := e.width.exists_toInt_eq hrange
    have hvariant : e.ofStored? c = none :=
      Option.eq_none_iff_forall_ne_some.2 fun x hx => hnone x ⟨c, rfl, hx⟩
    refine ⟨e.typeName, rfl, ?_⟩
    unfold ColumnType.ofValue
    rw [e.width.ofValue_eq_ok_iff.2 hinteger]
    simp only [hvariant]
  of_not_isInteger v h := by
    unfold ColumnType.ofValue
    rw [e.width.ofValue_of_not_isInteger h]

/-- Types of integers read integers of any width. -/
theorem ColumnType.readsIntegers {t : ColumnType} {w : IntegerWidth} (h : t.integers? = some w) :
    ReadsIntegers w t.IsNumber t.enumeration? t.ofValue := by
  induction t with
  | native t =>
    cases t <;> cases h
    · exact IntegerWidth.tiny.readsIntegers
    · exact IntegerWidth.small.readsIntegers
    · exact IntegerWidth.regular.readsIntegers
    · exact IntegerWidth.big.readsIntegers
  | key entity t ih => exact (ih h).key entity
  | enumeration e =>
    obtain rfl : e.width = w := Option.some.inj h
    exact e.readsIntegers

theorem ColumnType.sqlType_of_integers? {t : ColumnType} {w : IntegerWidth}
    (h : t.integers? = some w) : t.sqlType = w.sqlType := by
  induction t with
  | native t => cases t <;> cases h <;> rfl
  | key entity t ih => exact ih h
  | enumeration e =>
    obtain rfl : e.width = w := Option.some.inj h
    rfl

end Types

/-- The native form of a value is not `NULL`, has the declared type and reads back as the value, bit
by bit if it is a floating-point number. A type whose values are integers has a width, reads the
integers of all widths by their numbers and has its errors for all else. -/
theorem column_values_read_back (t : ColumnType) :
    (t.IsFaithful → ∀ x : t.Carrier, t.toValue x ≠ .null ∧
      (t.toValue x).sqlType? = some t.sqlType ∧ t.ofValue (t.toValue x) = .ok x) ∧
    ∀ w, t.integers? = some w →
      t.sqlType = w.sqlType ∧ ReadsIntegers w t.IsNumber t.enumeration? t.ofValue := by
  refine ⟨fun ht x => ?_, fun w h => ⟨t.sqlType_of_integers? h, t.readsIntegers h⟩⟩
  have htype := t.sqlType?_toValue x
  refine ⟨fun hnull => ?_, htype, ColumnType.ofValue_toValue ht x⟩
  rw [hnull] at htype
  cases htype

theorem payment_states_read_back :
    let state : ColumnType := .key "Payment" (.enumeration Postgres.paymentState)
    let paid : state.Carrier := ⟨(1 : Fin 2)⟩
    state.IsFaithful ∧ state.integers? = some .tiny ∧
      state.ofValue (state.toValue paid) = .ok paid ∧
      state.ofValue (.bigInt 255) = .ok paid ∧
      state.ofValue (.bigInt 256) = .error (.outOfRange 0 .tinyInt 256) ∧
      state.ofValue (.bigInt 7) = .error (.unknownEnumValue "PaymentState" 7) ∧
      state.ofValue (.text "7") = .error (.typeMismatch 0 .tinyInt "Text") := by
  intro state paid
  have hfaithful : state.IsFaithful := by
    rintro (v : Fin 2)
    match v with
    | ⟨0, _⟩ => rfl
    | ⟨1, _⟩ => rfl
  have hwidth : state.integers? = some .tiny := rfl
  obtain ⟨hback, hintegers⟩ := column_values_read_back state
  obtain ⟨-, hread⟩ := hintegers .tiny hwidth
  have hlarge : Value.IsInteger (.bigInt 256) 256 := ⟨.big, (256 : Int64), rfl, by decide⟩
  have hseven : Value.IsInteger (.bigInt 7) 7 := ⟨.big, (7 : Int64), rfl, by decide⟩
  refine ⟨hfaithful, hwidth, (hback hfaithful paid).2.2, ?_, ?_, ?_, ?_⟩
  · have hpaid : Value.IsInteger (.bigInt 255) 255 := ⟨.big, (255 : Int64), rfl, by decide⟩
    exact (hread.ok_iff _ _).2 ⟨255, hpaid, by decide, (255 : UInt8), by decide, rfl⟩
  · exact hread.of_not_inRange _ _ hlarge (by decide)
  · obtain ⟨name, hname, herror⟩ := hread.of_not_isNumber _ _ hseven (by decide) (by
      rintro x ⟨c, hc, hx⟩
      have hc' : some c = some (7 : UInt8) := (IntegerWidth.tiny.ofInt?_eq_some_iff.2 hc).symm
      cases hc'
      cases hx)
    cases hname
    exact herror
  · exact hread.of_not_isInteger _ fun n hn => by
      have hnumber := Value.toInt?_eq_some_iff.2 hn
      cases hnumber

end TypedSql
