import Mathlib.Data.List.Forall2
import TypedSql.Proofs.DerivedRows
/-!
# Select lists and rows

The fields of a selector are run once to find what a statement selects, and once more for each row
that comes back. The place of a field in the select list is the place of its value in the row, for
any fields, any rows and whatever is missing or cannot be read.

## Main definitions

- `Field.decode`: what a field holds for the value of a column.
- `ReadsRow`: the outcome of reading one row.
- `ReadsRows`: the outcome of reading the rows of a cursor.

## Main statements

- `ReadsRow.unique`: a row has one outcome.
- `Cursor.readAll_eq`: one step of a cursor that is read to its end.
- `select_list_stays_aligned_with_rows`: what is selected and what is read.
-/

namespace TypedSql

section Columns

/-- What a field holds for the value of a column. A `NULL` is nothing for a field that may be
missing, and the stand-in of its type for any other. -/
def Field.decode (f : Field) (ordinal : Nat) : Value → Except DecodeError Cell
  | .null => .ok ⟨f.type, if f.nullable then none else some f.type.nullDefault⟩
  | v => ((f.type.ofValue v).mapError (.atOrdinal ordinal)).map fun x => ⟨f.type, some x⟩

/-- The ordinal that a type or range error names. -/
def DecodeError.namedOrdinal? : DecodeError → Option Nat
  | typeMismatch ordinal _ _ | outOfRange ordinal _ _ => some ordinal
  | unknownEnumValue _ _ | columnOutOfRange _ _ | noCurrentRow => none

theorem DecodeError.namedOrdinal?_atOrdinal (e : DecodeError) (ordinal : Nat) :
    ∀ n ∈ (e.atOrdinal ordinal).namedOrdinal?, n = ordinal := by
  cases e <;> simp [atOrdinal, namedOrdinal?]

namespace Field

theorem decode_of_ne_null (f : Field) (ordinal : Nat) {v : Value} (h : v ≠ .null) :
    f.decode ordinal v =
      ((f.type.ofValue v).mapError (.atOrdinal ordinal)).map fun x => ⟨f.type, some x⟩ := by
  cases v <;> first | rfl | exact (h rfl).elim

theorem mapError_read (f : Field) (ordinal : Nat) (v : Value) :
    (f.read v).mapError (.atOrdinal ordinal) = f.decode ordinal v := by
  by_cases hnull : v = .null
  · subst hnull
    rfl
  · rw [f.read_of_ne_null hnull, f.decode_of_ne_null ordinal hnull]
    cases f.type.ofValue v <;> rfl

theorem readAt_of_getElem? (f : Field) {row : List Value} {ordinal : Nat} {v : Value}
    (h : row[ordinal]? = some v) : f.readAt row ordinal = f.decode ordinal v := by
  rw [readAt, Cursor.valueOf, h]
  exact f.mapError_read ordinal v

theorem readAt_of_length_le (f : Field) {row : List Value} {ordinal : Nat}
    (h : row.length ≤ ordinal) :
    f.readAt row ordinal = .error (.columnOutOfRange ordinal row.length) := by
  rw [readAt, Cursor.valueOf, List.getElem?_eq_none h]

theorem exists_decode_of_readAt {f : Field} {row : List Value} {ordinal : Nat} {cell : Cell}
    (h : f.readAt row ordinal = .ok cell) :
    ∃ v, row[ordinal]? = some v ∧ f.decode ordinal v = .ok cell := by
  by_cases hlength : row.length ≤ ordinal
  · rw [f.readAt_of_length_le hlength] at h
    cases h
  · have hv := List.getElem?_eq_getElem (Nat.lt_of_not_le hlength)
    exact ⟨_, hv, by rw [← f.readAt_of_getElem? hv, h]⟩

/-- A type or range error names the column that is read. -/
theorem namedOrdinal?_of_decode {f : Field} {ordinal : Nat} {v : Value} {e : DecodeError}
    (h : f.decode ordinal v = .error e) : ∀ n ∈ e.namedOrdinal?, n = ordinal := by
  have hnull : v ≠ .null := by
    rintro rfl
    cases h
  rw [f.decode_of_ne_null ordinal hnull] at h
  cases hvalue : f.type.ofValue v with
  | ok x =>
    rw [hvalue] at h
    cases h
  | error e' =>
    rw [hvalue] at h
    cases h
    exact e'.namedOrdinal?_atOrdinal ordinal

end Field

end Columns

section OneRow

/-- The first columns of a row are read without an error. -/
def ReadsColumns (selector : List Field) (row : List Value) (count : Nat) : Prop :=
  ∀ i (f : Field), i < count → selector[i]? = some f →
    ∃ v cell, row[i]? = some v ∧ f.decode i v = .ok cell

/-- The outcome of reading a row. Either each field holds what it reads from the column at its own
place, whatever columns are left over. Or there is a first column that fails: it is not there, as
the row ends before it, or its value cannot be read. -/
def ReadsRow (selector : List Field) (row : List Value) : Except DecodeError (List Cell) → Prop
  | .ok cells => cells.length = selector.length ∧
      ∀ i (f : Field), selector[i]? = some f →
        ∃ v cell, row[i]? = some v ∧ cells[i]? = some cell ∧ f.decode i v = .ok cell
  | .error e => ∃ i, ∃ f : Field, selector[i]? = some f ∧ ReadsColumns selector row i ∧
      (row.length = i ∧ e = .columnOutOfRange i row.length ∨
        ∃ v, row[i]? = some v ∧ f.decode i v = .error e ∧ ∀ n ∈ e.namedOrdinal?, n = i)

variable {selector : List Field} {row : List Value}

/-- A row does not end before the columns that are read. -/
theorem ReadsColumns.le_length {i : Nat} {f : Field} (h : ReadsColumns selector row i)
    (hf : selector[i]? = some f) : i ≤ row.length := by
  refine Nat.le_of_not_lt fun hlt => ?_
  have hlast := List.getElem?_eq_getElem (Nat.lt_trans hlt (List.getElem?_eq_some_iff.1 hf).1)
  obtain ⟨v, -, hv, -⟩ := h row.length _ hlt hlast
  exact Nat.lt_irrefl _ (List.getElem?_eq_some_iff.1 hv).1

/-- A row from whose current values the fields are read has the outcome of these values. -/
theorem Row.readsRow_getAll (selector : List Field) {c : Cursor} (hc : c.current? = some row) :
    ReadsRow selector row ((Row.ofCursor c).getAll selector).1 := by
  rw [Row.ofCursor]
  obtain ⟨cells, hcells, hlength, hread⟩ | ⟨e, i, f, herror, hf, hfails, hbefore⟩ :=
    Row.getAll_reading hc selector 0
  · rw [hcells]
    refine ⟨hlength, fun i f hf => ?_⟩
    obtain ⟨cell, hcell, hat⟩ := hread i f hf
    obtain ⟨v, hv, hdecode⟩ := Field.exists_decode_of_readAt hat
    rw [Nat.zero_add] at hv hdecode
    exact ⟨v, cell, hv, hcell, hdecode⟩
  · rw [herror]
    have hcolumns : ReadsColumns selector row i := by
      intro j g hj hg
      obtain ⟨cell, hat⟩ := hbefore j g hj hg
      obtain ⟨v, hv, hdecode⟩ := Field.exists_decode_of_readAt hat
      rw [Nat.zero_add] at hv hdecode
      exact ⟨v, cell, hv, hdecode⟩
    refine ⟨i, f, hf, hcolumns, ?_⟩
    rw [Nat.zero_add] at hfails
    by_cases hshort : row.length ≤ i
    · rw [f.readAt_of_length_le hshort] at hfails
      cases hfails
      exact .inl ⟨Nat.le_antisymm hshort (hcolumns.le_length hf), rfl⟩
    · have hv := List.getElem?_eq_getElem (Nat.lt_of_not_le hshort)
      rw [f.readAt_of_getElem? hv] at hfails
      exact .inr ⟨_, hv, hfails, Field.namedOrdinal?_of_decode hfails⟩

namespace ReadsRow

/-- A column that fails is not among those that are read. -/
theorem not_lt_of_error {e : DecodeError} {i count : Nat} {f : Field} (hf : selector[i]? = some f)
    (hfails : row.length = i ∧ e = .columnOutOfRange i row.length ∨
      ∃ v, row[i]? = some v ∧ f.decode i v = .error e ∧ ∀ n ∈ e.namedOrdinal?, n = i)
    (hcolumns : ReadsColumns selector row count) : ¬ i < count := by
  intro hi
  obtain ⟨w, cell, hw, hcell⟩ := hcolumns i f hi hf
  obtain ⟨hlength, -⟩ | ⟨v, hv, herror, -⟩ := hfails
  · exact absurd (List.getElem?_eq_some_iff.1 hw).1 (hlength ▸ Nat.lt_irrefl _)
  · rw [hv] at hw
    cases hw
    rw [herror] at hcell
    cases hcell

theorem readsColumns {cells : List Cell} (h : ReadsRow selector row (.ok cells)) (count : Nat) :
    ReadsColumns selector row count := by
  intro i f _ hf
  obtain ⟨v, cell, hv, -, hcell⟩ := h.2 i f hf
  exact ⟨v, cell, hv, hcell⟩

/-- A row has one outcome. -/
theorem unique {x y : Except DecodeError (List Cell)} (hx : ReadsRow selector row x)
    (hy : ReadsRow selector row y) : x = y := by
  cases x with
  | ok cells =>
    cases y with
    | ok cells' =>
      have hlength : cells.length = cells'.length := hx.1.trans hy.1.symm
      refine congrArg Except.ok (List.ext_getElem? fun i => ?_)
      by_cases hi : i < selector.length
      · obtain ⟨v, cell, hv, hcell, hdecode⟩ := hx.2 i _ (List.getElem?_eq_getElem hi)
        obtain ⟨v', cell', hv', hcell', hdecode'⟩ := hy.2 i _ (List.getElem?_eq_getElem hi)
        cases hv.symm.trans hv'
        cases hdecode.symm.trans hdecode'
        rw [hcell, hcell']
      · have hi := Nat.le_of_not_lt hi
        rw [List.getElem?_eq_none (hx.1 ▸ hi), List.getElem?_eq_none (hy.1 ▸ hi)]
    | error e =>
      obtain ⟨i, f, hf, -, hfails⟩ := hy
      exact (not_lt_of_error hf hfails (hx.readsColumns (i + 1)) i.lt_succ_self).elim
  | error e =>
    obtain ⟨i, f, hf, hbefore, hfails⟩ := hx
    cases y with
    | ok cells' =>
      exact (not_lt_of_error hf hfails (hy.readsColumns (i + 1)) i.lt_succ_self).elim
    | error e' =>
      obtain ⟨i', f', hf', hbefore', hfails'⟩ := hy
      -- each of the two columns that fail is not before the other
      obtain rfl : i = i' := Nat.le_antisymm
        (Nat.le_of_not_lt (not_lt_of_error hf' hfails' hbefore))
        (Nat.le_of_not_lt (not_lt_of_error hf hfails hbefore'))
      cases hf.symm.trans hf'
      obtain ⟨hlength, rfl⟩ | ⟨v, hv, hdecode, -⟩ := hfails
      · obtain ⟨-, rfl⟩ | ⟨v', hv', -, -⟩ := hfails'
        · rfl
        · exact absurd (List.getElem?_eq_some_iff.1 hv').1 (hlength ▸ Nat.lt_irrefl _)
      · obtain ⟨hlength', -⟩ | ⟨v', hv', hdecode', -⟩ := hfails'
        · exact absurd (List.getElem?_eq_some_iff.1 hv).1 (hlength' ▸ Nat.lt_irrefl _)
        · cases hv.symm.trans hv'
          cases hdecode.symm.trans hdecode'
          rfl

end ReadsRow

theorem getAll_eq_readRow (selector : List Field) {c : Cursor} (hc : c.current? = some row) :
    ((Row.ofCursor c).getAll selector).1 = readRow selector row :=
  (Row.readsRow_getAll selector hc).unique (Row.readsRow_getAll selector rfl)

end OneRow

section AllRows

/-- The outcome of reading rows and the cursor after it. Either each row is read once, in order,
and there is none left. Or there is a first row that fails: its error is that of the whole, and the
cursor stays on it. -/
def ReadsRows (selector : List Field) (rows : List (List Value)) :
    Except DecodeError (List (List Cell)) × Cursor → Prop
  | (.ok table, c) => List.Forall₂ (fun row cells => ReadsRow selector row (.ok cells)) rows table ∧
      c.current? = none ∧ c.rows = []
  | (.error e, c) => ∃ before row after, rows = before ++ row :: after ∧
      (∀ row ∈ before, ∃ cells, ReadsRow selector row (.ok cells)) ∧
      ReadsRow selector row (.error e) ∧ c.current? = some row ∧ c.rows = after

namespace Cursor

variable (selector : List Field)

/-- Where a cursor stands does not matter for reading the rows that it is given. -/
theorem readAllOf_moved (c : Cursor) (left : List (List Value)) (current? : Option (List Value))
    (rows : List (List Value)) :
    readAllOf selector { c with rows := left, current? := current? } rows =
      readAllOf selector c rows := by
  induction rows with
  | nil => rfl
  | cons row rows ih =>
    rw [readAllOf, readAllOf, ih]

/-- Reading a cursor to its end is stepping to the next row, reading that row from the cursor, and
going on if it could be read. -/
theorem readAll_eq (c : Cursor) :
    c.readAll selector =
      match c.next with
      | (false, c) => (.ok [], c)
      | (true, c) =>
        match ((Row.ofCursor c).getAll selector).1 with
        | .error e => (.error e, c)
        | .ok cells => ((c.readAll selector).1.map (cells :: ·), (c.readAll selector).2) := by
  obtain ⟨fieldCount, rows, current?, affected⟩ := c
  cases rows with
  | nil => rfl
  | cons row rows =>
    have hrow : ((Row.ofCursor ⟨fieldCount, rows, some row, affected⟩).getAll selector).1 =
        readRow selector row := getAll_eq_readRow selector rfl
    have hrest := readAllOf_moved selector ⟨fieldCount, row :: rows, current?, affected⟩ rows
      (some row) rows
    simp only [next, hrow]
    rw [readAll, readAll, readAllOf]
    cases hread : readRow selector row with
    | error e => rfl
    | ok cells => rw [← hrest]

theorem readsRows_readAll (c : Cursor) : ReadsRows selector c.rows (c.readAll selector) := by
  generalize hrows : c.rows = rows
  induction rows generalizing c with
  | nil =>
    rw [readAll_eq, next, hrows]
    exact ⟨.nil, rfl, rfl⟩
  | cons row rows ih =>
    rw [readAll_eq, next, hrows]
    dsimp only
    generalize hmoved : ({ c with rows := rows, current? := some row } : Cursor) = moved
    obtain ⟨hleft, hcurrent⟩ : moved.rows = rows ∧ moved.current? = some row := by simp [← hmoved]
    have hrow := Row.readsRow_getAll selector hcurrent
    have hrest := ih moved hleft
    generalize moved.readAll selector = later at hrest ⊢
    obtain ⟨result, c'⟩ := later
    cases hread : ((Row.ofCursor moved).getAll selector).1 with
    | error e =>
      rw [hread] at hrow
      exact ⟨[], row, rows, rfl, by simp, hrow, hcurrent, hleft⟩
    | ok cells =>
      rw [hread] at hrow
      cases result with
      | ok table => exact ⟨.cons hrow hrest.1, hrest.2⟩
      | error e =>
        obtain ⟨before, failing, after, rfl, hbefore, hfails, hstays⟩ := hrest
        exact ⟨row :: before, failing, after, rfl,
          List.forall_mem_cons.2 ⟨⟨cells, hrow⟩, hbefore⟩, hfails, hstays⟩

end Cursor

/-- What is selected and what is read stay aligned, whatever the fields are. Without a row, the
fields are all asked for, and the select list is their expressions in order. From any cursor, each
row is read once and in order, and in each row every field holds what it reads from the column at
its own place, if all of them can be read; otherwise the error is that of the first column that
fails in the first row that has one. -/
theorem select_list_stays_aligned_with_rows (selector : List Field) :
    (∃ cells, (Row.collect.getAll selector).1 = .ok cells) ∧
    collectFields selector = selector.map (·.expr) ∧
    ∀ c : Cursor, ReadsRows selector c.rows (c.readAll selector) := by
  refine ⟨?_, ?_, fun c => c.readsRows_readAll selector⟩
  · exact ⟨_, congrArg Prod.fst (Row.getAll_collecting selector [] 0)⟩
  · rw [collectFields, Row.collect, Row.getAll_collecting]
    exact List.nil_append _

/-- The second row ends before its second column. -/
example : (Cursor.readAll [.countAll, .currentTimestamp]
      { rows := [[.bigInt 7, .null, .null], [.bigInt 8], []] }).1 =
    .error (.columnOutOfRange 1 1) := rfl

end AllRows

end TypedSql
