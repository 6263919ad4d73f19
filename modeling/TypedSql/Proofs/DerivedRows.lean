import TypedSql.Declaration.Derived
import TypedSql.Proofs.TypeTexts
/-!
# Rows of derived tables

The columns of a derived table, the fields that it asks for and the cells that it reads are found
one by one from the fields of the declaration. They stay aligned whatever the attributes say: a
field has the same place in the declaration, in the selection and in each row.

## Main definitions

- `FieldDeclaration.columnName`, `FieldDeclaration.hasFlag`: what the attributes of a field say.
- `FieldDeclaration.column`: the column of a field.
- `FieldDeclaration.decode`: what a field holds for a value.

## Main statements

- `FieldDeclaration.describe_eq`, `RowDeclaration.columns_eq`: a declaration that is accepted
  describes the columns of its fields, with one key at most.
- `Row.getAll_collecting`, `Row.getAll_reading`: what is asked for and what is read.
- `derived_rows_follow_declarations`: requests, names, cells, errors and the key of a derived table.
-/

namespace TypedSql

variable {τ : Type}

section Settings

theorem exists_of_bind_eq_ok {ε α β : Type} {x : Except ε α} {f : α → Except ε β} {b : β}
    (h : x >>= f = .ok b) : ∃ a, x = .ok a ∧ f a = .ok b := by
  cases x with
  | error e => cases h
  | ok a => exact ⟨a, rfl, h⟩

/-- The name that an attribute gives to a column. -/
def Attribute.columnName? (a : Attribute) : Option String :=
  match a.key, a.value? with
  | "name", some (.text s) => some s
  | _, _ => none

namespace FieldDeclaration

def hasFlag (f : FieldDeclaration τ) (key : String) : Bool := f.attributes.any (·.key = key)

/-- The last name that is given to the column, or else the name of the field in Pascal case. -/
def columnName (f : FieldDeclaration τ) : String :=
  (f.attributes.filterMap Attribute.columnName?).getLast?.getD (pascalCase f.name)

/-- The column of a field. -/
def column (f : FieldDeclaration τ) : ColumnDescriptor τ where
  field := f.name
  type := f.type
  optional := f.optional
  name := f.columnName
  primaryKey := f.hasFlag "primary_key"
  nullable := f.optional || f.hasFlag "nullable"
  enclosed := f.hasFlag "enclose"

end FieldDeclaration

/-- The settings after an attribute that is accepted. -/
theorem ColumnSettings.eq_of_apply {s s' : ColumnSettings} {a : Attribute}
    (h : s.apply a = .ok s') :
    s' = ⟨a.columnName?.or s.name?, s.primaryKey || a.key = "primary_key",
      s.nullable || a.key = "nullable", s.enclosed || a.key = "enclose"⟩ := by
  obtain ⟨key, value?⟩ := a
  rw [apply] at h
  split at h
  · next hkey =>
    obtain rfl : key = "name" := hkey
    cases value? with
    | none => cases h
    | some value =>
      cases value with
      | other => cases h
      | text name =>
        cases h
        simp [Attribute.columnName?]
  · next hkey =>
    obtain rfl : key = "primary_key" := hkey
    cases value? <;> cases h
    simp [Attribute.columnName?]
  · next hkey =>
    obtain rfl : key = "nullable" := hkey
    cases value? <;> cases h
    simp [Attribute.columnName?]
  · next hkey =>
    obtain rfl : key = "enclose" := hkey
    cases value? <;> cases h
    simp [Attribute.columnName?]
  · cases h

theorem ColumnSettings.eq_of_foldlM {s s' : ColumnSettings} {attributes : List Attribute}
    (h : attributes.foldlM apply s = .ok s') :
    s' = ⟨(attributes.filterMap Attribute.columnName?).getLast?.or s.name?,
      s.primaryKey || attributes.any (·.key = "primary_key"),
      s.nullable || attributes.any (·.key = "nullable"),
      s.enclosed || attributes.any (·.key = "enclose")⟩ := by
  induction attributes generalizing s with
  | nil =>
    cases h
    simp
  | cons a attributes ih =>
    rw [List.foldlM_cons] at h
    obtain ⟨s₁, hstep, hrest⟩ := exists_of_bind_eq_ok h
    rw [ih hrest, eq_of_apply hstep]
    cases hname : a.columnName? with
    | none => simp [hname, Bool.or_assoc]
    | some name => simp [hname, Bool.or_assoc, List.getLast?_cons, Option.or_some]

/-- A field that is accepted has the column that its attributes say. -/
theorem FieldDeclaration.describe_eq {f : FieldDeclaration τ} {c : ColumnDescriptor τ}
    (h : f.describe = .ok c) : c = f.column := by
  rw [describe] at h
  obtain ⟨s, hsettings, hnamed⟩ := exists_of_bind_eq_ok h
  obtain rfl := ColumnSettings.eq_of_foldlM hsettings
  simp only [Option.or_none, Bool.false_or] at hnamed
  split at hnamed
  · cases hnamed
  · cases hnamed
    rfl

theorem mapM_eq_map {α β ε : Type} {f : α → Except ε β} {g : α → β} {as : List α} {bs : List β}
    (hg : ∀ a b, f a = .ok b → b = g a) (h : as.mapM f = .ok bs) : bs = as.map g := by
  induction as generalizing bs with
  | nil =>
    cases h
    rfl
  | cons a as ih =>
    rw [List.mapM_cons] at h
    obtain ⟨b, hfirst, h⟩ := exists_of_bind_eq_ok h
    obtain ⟨rest, hrest, h⟩ := exists_of_bind_eq_ok h
    cases h
    rw [List.map_cons, ih hrest, hg a b hfirst]

/-- A declaration that is accepted describes the columns of its fields, one of them a key at
most. -/
theorem RowDeclaration.columns_eq {row : RowDeclaration τ} {d : Descriptor τ}
    (h : row.describe = .ok d) :
    d.columns = row.fields.map (·.column) ∧ d.columns.countP (·.primaryKey) ≤ 1 := by
  rw [describe] at h
  obtain ⟨s, -, h⟩ := exists_of_bind_eq_ok h
  obtain ⟨-, -, h⟩ := exists_of_bind_eq_ok h
  obtain ⟨columns, hcolumns, h⟩ := exists_of_bind_eq_ok h
  split at h
  · cases h
  · next hkeys =>
    cases h
    exact ⟨mapM_eq_map (fun f c hc => FieldDeclaration.describe_eq hc) hcolumns,
      Nat.le_of_not_lt hkeys⟩

end Settings

section Reading

/-- A reading that only notes fields notes the expression of each, and makes up what it holds. -/
theorem Row.getAll_collecting (fields : List Field) (noted : List Expr) (position : Nat) :
    getAll fields ⟨.collecting noted, position⟩ =
      (.ok (fields.map Field.placeholder),
        ⟨.collecting (noted ++ fields.map (·.expr)), position + fields.length⟩) := by
  induction fields generalizing noted position with
  | nil => simp [getAll]
  | cons f fields ih =>
    rw [getAll, get]
    simp only [ih]
    simp [Nat.add_assoc, Nat.add_comm 1]

theorem Field.read_of_ne_null (f : Field) {v : Value} (h : v ≠ .null) :
    f.read v = (f.type.ofValue v).map fun x => ⟨f.type, some x⟩ := by
  cases v <;> first | rfl | exact (h rfl).elim

/-- What a field reads at a place of a row. -/
def Field.readAt (f : Field) (values : List Value) (ordinal : Nat) : Except DecodeError Cell :=
  match Cursor.valueOf values ordinal with
  | .error e => .error e
  | .ok v => (f.read v).mapError (.atOrdinal ordinal)

theorem Row.get_reading {c : Cursor} {values : List Value} (hc : c.current? = some values)
    (f : Field) (position : Nat) :
    get f ⟨.reading c, position⟩ = (f.readAt values position, ⟨.reading c, position + 1⟩) := by
  have hvalue : c.value position = Cursor.valueOf values position := by
    rw [Cursor.value, hc]
  cases h : Cursor.valueOf values position <;> simp [get, Field.readAt, hvalue, h]

/-- Each field reads at the place that it has among the fields, up to the first one that fails. -/
theorem Row.getAll_reading {c : Cursor} {values : List Value} (hc : c.current? = some values)
    (fields : List Field) (position : Nat) :
    (∃ cells, (getAll fields ⟨.reading c, position⟩).1 = .ok cells ∧
      cells.length = fields.length ∧
      ∀ i (f : Field), fields[i]? = some f →
        ∃ cell, cells[i]? = some cell ∧ f.readAt values (position + i) = .ok cell) ∨
    ∃ e i, ∃ f : Field, (getAll fields ⟨.reading c, position⟩).1 = .error e ∧
      fields[i]? = some f ∧ f.readAt values (position + i) = .error e ∧
      ∀ j (g : Field), j < i → fields[j]? = some g →
        ∃ cell, g.readAt values (position + j) = .ok cell := by
  induction fields generalizing position with
  | nil => exact .inl ⟨[], rfl, rfl, by simp⟩
  | cons f fields ih =>
    rw [getAll, get_reading hc]
    have ih := ih (position + 1)
    cases hf : f.readAt values position with
    | error e => exact .inr ⟨e, 0, f, rfl, rfl, hf, by simp⟩
    | ok first =>
      simp only
      generalize getAll fields ⟨.reading c, position + 1⟩ = later at ih ⊢
      obtain ⟨result, r⟩ := later
      obtain ⟨cells, hcells, hlength, hread⟩ | ⟨e, i, g, herror, hg, hfails, hbefore⟩ :=
        ih
      · obtain rfl : result = .ok cells := hcells
        refine .inl ⟨first :: cells, rfl, by simp [hlength], ?_⟩
        · rintro (_ | i) g hg
          · cases hg
            exact ⟨first, rfl, hf⟩
          · obtain ⟨cell, hcell, hread⟩ := hread i g hg
            exact ⟨cell, hcell, by rw [← hread, Nat.add_right_comm, Nat.add_assoc]⟩
      · obtain rfl : result = .error e := herror
        refine .inr ⟨e, i + 1, g, rfl, hg, ?_, ?_⟩
        · rw [← hfails, Nat.add_right_comm, Nat.add_assoc]
        · rintro (_ | j) g' hj hg'
          · cases hg'
            exact ⟨first, hf⟩
          · obtain ⟨cell, hread⟩ := hbefore j g' (Nat.lt_of_succ_lt_succ hj) hg'
            exact ⟨cell, by rw [← hread, Nat.add_right_comm, Nat.add_assoc]⟩

/-- What a field holds for a value. Only a field that may be missing is missing for a `NULL`; every
other one holds the stand-in of its type. -/
def FieldDeclaration.decode (f : FieldDeclaration ColumnType) (ordinal : Nat) :
    Value → Except DecodeError Cell
  | .null => .ok ⟨f.type, if f.optional then none else some f.type.nullDefault⟩
  | v => ((f.type.ofValue v).mapError (.atOrdinal ordinal)).map fun x => ⟨f.type, some x⟩

theorem FieldDeclaration.decode_of_ne_null (f : FieldDeclaration ColumnType) (i : Nat) {v : Value}
    (h : v ≠ .null) : f.decode i v =
      ((f.type.ofValue v).mapError (.atOrdinal i)).map fun x => ⟨f.type, some x⟩ := by
  cases v <;> first | rfl | exact (h rfl).elim

/-- A type or range error of a field names its place. -/
theorem FieldDeclaration.ordinal_of_decode {f : FieldDeclaration ColumnType} {i : Nat} {v : Value}
    {e : DecodeError} (h : f.decode i v = .error e) (ordinal : Nat) (expected : SqlType) :
    (∀ found, e = .typeMismatch ordinal expected found → ordinal = i) ∧
      ∀ n, e = .outOfRange ordinal expected n → ordinal = i := by
  have hnull : v ≠ .null := by
    rintro rfl
    cases h
  rw [f.decode_of_ne_null i hnull] at h
  cases hvalue : f.type.ofValue v with
  | ok x =>
    rw [hvalue] at h
    cases h
  | error e' =>
    rw [hvalue] at h
    cases h
    cases e' <;> simp_all [DecodeError.atOrdinal]

theorem FieldDeclaration.map_complete_readAt (f : FieldDeclaration ColumnType) (table : Table)
    {values : List Value} {i : Nat} {v : Value} (hv : values[i]? = some v) :
    ((f.column.toField table).readAt values i).map f.column.complete = f.decode i v := by
  have hvalue : Cursor.valueOf values i = .ok v := by rw [Cursor.valueOf, hv]
  rw [Field.readAt, hvalue]
  dsimp only
  by_cases hnull : v = .null
  · subst hnull
    have hcell : f.column.complete (f.column.toField table).placeholder =
        ⟨f.type, if f.optional then none else some f.type.nullDefault⟩ := by
      -- what stands in for a missing value depends on both marks of the column
      cases hoptional : f.optional <;> cases hnullable : f.hasFlag "nullable" <;>
        simp [Field.placeholder, ColumnDescriptor.toField, Field.column, column,
          ColumnDescriptor.complete, ColumnDescriptor.isDefaulted, hoptional, hnullable]
    exact congrArg Except.ok hcell
  · have hread : (f.column.toField table).read v =
        (f.type.ofValue v).map fun x => ⟨f.type, some x⟩ := Field.read_of_ne_null _ hnull
    rw [hread, f.decode_of_ne_null i hnull]
    cases f.type.ofValue v with
    | error e => rfl
    | ok x =>
      have hcell : f.column.complete ⟨f.type, some x⟩ = ⟨f.type, some x⟩ :=
        if_neg (by simp)
      exact congrArg Except.ok hcell

end Reading

section Rows

variable {row : RowDeclaration ColumnType} {d : Descriptor ColumnType}

theorem Descriptor.fields_eq (h : row.describe = .ok d) (table : Table) :
    d.fields table = row.fields.map fun f => f.column.toField table := by
  rw [fields, (RowDeclaration.columns_eq h).1, List.map_map]
  rfl

/-- The fields that are asked for are the columns, in the order of the declaration. -/
theorem Descriptor.requests_eq (h : row.describe = .ok d) (table : Table) :
    (∃ cells, (d.readRow table .collect).1 = .ok cells) ∧
      (d.readRow table .collect).2.fields = row.fields.map fun f =>
        .column ⟨table, f.columnName, f.hasFlag "enclose", f.type.sqlType⟩ := by
  rw [readRow, Row.collect, Row.getAll_collecting, fields_eq h]
  refine ⟨⟨_, rfl⟩, ?_⟩
  simp only [Row.fields, List.nil_append, List.map_map]
  rfl

/-- The key is the column of the field that is marked as one. -/
theorem Descriptor.primaryKey?_eq (h : row.describe = .ok d) :
    row.fields.countP (·.hasFlag "primary_key") ≤ 1 ∧
      (∀ f ∈ row.fields, f.hasFlag "primary_key" → d.primaryKey? = some f.columnName) ∧
      ((∀ f ∈ row.fields, f.hasFlag "primary_key" = false) → d.primaryKey? = none) := by
  obtain ⟨hcolumns, hkeys⟩ := RowDeclaration.columns_eq h
  have hcount : row.fields.countP (·.hasFlag "primary_key") ≤ 1 := by
    rw [hcolumns, List.countP_map] at hkeys
    exact hkeys
  have hkey : d.primaryKey? =
      (row.fields.filter (·.hasFlag "primary_key")).head?.map (·.columnName) := by
    rw [primaryKey?, hcolumns, List.find?_map, Option.map_map, List.head?_filter]
    rfl
  refine ⟨hcount, ?_, ?_⟩
  · intro f hf hflag
    rw [List.countP_eq_length_filter] at hcount
    have hmem : f ∈ row.fields.filter (·.hasFlag "primary_key") := List.mem_filter.2 ⟨hf, hflag⟩
    -- there is no other field with the mark
    obtain ⟨g, hg⟩ := List.length_eq_one_iff.1
      (Nat.le_antisymm hcount (List.length_pos_of_mem hmem))
    rw [hg] at hmem
    rw [hkey, hg, List.mem_singleton.1 hmem]
    rfl
  · intro hnone
    rw [hkey, List.filter_eq_nil_iff.2 fun f hf => by simp [hnone f hf]]
    rfl

/-- Each field is read from the value at its place: all of them, or up to the first one that fails,
whose place is named by a type or range error. -/
def RowDeclaration.Decodes (row : RowDeclaration ColumnType) (values : List Value) :
    Except DecodeError (List Cell) → Prop
  | .ok cells => cells.length = row.fields.length ∧
      ∀ i (f : FieldDeclaration ColumnType) (v : Value), row.fields[i]? = some f →
        values[i]? = some v → ∃ cell, cells[i]? = some cell ∧ f.decode i v = .ok cell
  | .error e => ∃ i, ∃ f : FieldDeclaration ColumnType, ∃ v : Value,
      row.fields[i]? = some f ∧ values[i]? = some v ∧ f.decode i v = .error e ∧
      (∀ j (g : FieldDeclaration ColumnType) (w : Value), j < i → row.fields[j]? = some g →
        values[j]? = some w → ∃ cell, g.decode j w = .ok cell) ∧
      ∀ ordinal expected, (∀ found, e = .typeMismatch ordinal expected found → ordinal = i) ∧
        ∀ n, e = .outOfRange ordinal expected n → ordinal = i

theorem Descriptor.decodes_readRow (h : row.describe = .ok d) (table : Table) {c : Cursor}
    {values : List Value} (hc : c.current? = some values)
    (hlength : values.length = row.fields.length) :
    row.Decodes values (d.readRow table (.ofCursor c)).1 := by
  have hcolumns := (RowDeclaration.columns_eq h).1
  have hfields := fields_eq h table
  -- a field of the declaration is a field of the table at the same place
  have hfield : ∀ (i : Nat) (f : FieldDeclaration ColumnType), row.fields[i]? = some f →
      (d.fields table)[i]? = some (f.column.toField table) := by
    intro i f hf
    rw [hfields, List.getElem?_map, hf]
    rfl
  rw [readRow, Row.ofCursor]
  obtain ⟨cells, hcells, hcount, hread⟩ | ⟨e, i, g, herror, hg, hfails, hbefore⟩ :=
    Row.getAll_reading hc (d.fields table) 0
  · simp only [hcells, Except.map]
    refine ⟨?_, ?_⟩
    · simp [complete, hcount, hcolumns, hfields]
    · intro i f v hf hv
      obtain ⟨cell, hcell, hread⟩ := hread i _ (hfield i f hf)
      rw [Nat.zero_add] at hread
      refine ⟨f.column.complete cell, ?_, ?_⟩
      · simp [complete, List.getElem?_zipWith, hcolumns, hf, hcell]
      · rw [← f.map_complete_readAt table hv, hread]
        rfl
  · rw [hfields, List.getElem?_map, Option.map_eq_some_iff] at hg
    obtain ⟨f, hf, rfl⟩ := hg
    obtain ⟨v, hv⟩ : ∃ v, values[i]? = some v := by
      have hi := (List.getElem?_eq_some_iff.1 hf).1
      exact ⟨values[i], List.getElem?_eq_getElem (hlength ▸ hi)⟩
    rw [Nat.zero_add] at hfails
    have hdecode : f.decode i v = .error e := by
      rw [← f.map_complete_readAt table hv, hfails]
      rfl
    simp only [herror, Except.map]
    refine ⟨i, f, v, hf, hv, hdecode, ?_, FieldDeclaration.ordinal_of_decode hdecode⟩
    · intro j g w hj hg hw
      obtain ⟨cell, hread⟩ := hbefore j _ hj (hfield j g hg)
      rw [Nat.zero_add] at hread
      refine ⟨g.column.complete cell, ?_⟩
      rw [← g.map_complete_readAt table hw, hread]
      rfl

/-- A declaration that is accepted describes a table that is read as it was declared. It asks for
the column of each field, in the order of the declaration, all of its own table, under their names,
with their types and quoted where the field says so. A row with as many values holds what each field
reads from the value at its place, and the first error is that of the first field that fails. The
key is the column of the one field that is marked. A field may be missing if its type is `Option`
of another, whatever path leads to it, and not if the path leads elsewhere. -/
theorem derived_rows_follow_declarations (h : row.describe = .ok d) (table : Table) :
    (∃ cells, (d.readRow table .collect).1 = .ok cells) ∧
    ((d.readRow table .collect).2.fields = row.fields.map fun f =>
      .column ⟨table, f.columnName, f.hasFlag "enclose", f.type.sqlType⟩) ∧
    d.columnNames = row.fields.map (·.columnName) ∧
    (∀ (c : Cursor) (values : List Value), c.current? = some values →
      values.length = row.fields.length →
        row.Decodes values (d.readRow table (.ofCursor c)).1) ∧
    row.fields.countP (·.hasFlag "primary_key") ≤ 1 ∧
    (∀ f ∈ row.fields, f.hasFlag "primary_key" → d.primaryKey? = some f.columnName) ∧
    ((∀ f ∈ row.fields, f.hasFlag "primary_key" = false) → d.primaryKey? = none) ∧
    ∀ (name type : String) (attributes : List Attribute),
      (∀ start before colons inner, TypeText.withoutBlanks type =
          String.ofList (TypeText.TypePath.option start before colons inner).text →
        FieldDeclaration.ofText name type attributes =
          ⟨name, String.ofList inner.text, true, attributes⟩) ∧
      ∀ path : TypeText.TypePath, path.last.segment.name ≠ "Option".toList →
        TypeText.withoutBlanks type = String.ofList path.text →
          FieldDeclaration.ofText name type attributes =
            ⟨name, String.ofList path.text, false, attributes⟩ := by
  obtain ⟨hcollects, hrequests⟩ := Descriptor.requests_eq h table
  obtain ⟨hcount, hkey, hnone⟩ := Descriptor.primaryKey?_eq h
  refine ⟨hcollects, hrequests, ?_, ?_, hcount, hkey, hnone, ?_⟩
  · rw [Descriptor.columnNames, (RowDeclaration.columns_eq h).1, List.map_map]
    rfl
  · intro c values hc hlength
    exact Descriptor.decodes_readRow h table hc hlength
  · intro name type attributes
    constructor
    · intro start before colons inner htype
      rw [FieldDeclaration.ofText, htype, TypeText.optionArgument?_option]
    · intro path hpath htype
      rw [FieldDeclaration.ofText, htype, TypeText.optionArgument?_eq_none path hpath]

/-- Invoices with a key, a date that may be missing, and a total that need not be there. -/
def invoiceRow : RowDeclaration ColumnType where
  name := "Invoice"
  fields :=
    [{ name := "id", type := .native .int, attributes := [{ key := "primary_key" }] },
      { name := "paid_on", type := .native .date, optional := true,
        attributes := [{ key := "name", value? := some (.text "Paid") }] },
      { name := "total_due", type := .native .bigInt,
        attributes := [{ key := "nullable" }, { key := "enclose" }] }]

theorem readRow_invoiceRow :
    ∃ d, invoiceRow.describe = .ok d ∧ d.columnNames = ["Id", "Paid", "TotalDue"] ∧
      d.primaryKey? = some "Id" ∧
      ∀ table : Table,
        (d.readRow table .collect).2.fields =
          [.column ⟨table, "Id", false, .int⟩, .column ⟨table, "Paid", false, .date⟩,
            .column ⟨table, "TotalDue", true, .bigInt⟩] ∧
        ∃ cells,
          (d.readRow table (.ofCursor { current? := some [.int 7, .null, .null] })).1 =
            .ok cells ∧
          cells[1]? = some ⟨.native .date, none⟩ ∧
          cells[2]? = some ⟨.native .bigInt, some IntegerWidth.big.zero⟩ := by
  have h : invoiceRow.describe = .ok ⟨"Invoice", "Invoice", none, false,
    invoiceRow.fields.map (·.column)⟩ := rfl
  have hflag : ⟨"id", .native .int, false, [{ key := "primary_key" }]⟩ ∈ invoiceRow.fields :=
    List.mem_cons_self
  have hrow := derived_rows_follow_declarations h
  refine ⟨_, h, rfl, ?_, fun table => ?_⟩
  · obtain ⟨-, -, -, -, -, hkey, -⟩ := hrow ⟨none, "Invoice", false, ⟨0, 0⟩⟩
    exact hkey _ hflag (by decide)
  · obtain ⟨-, hrequests, -, hreads, -⟩ := hrow table
    obtain ⟨-, hcells⟩ := hreads { current? := some [.int 7, .null, .null] } _ rfl rfl
    obtain ⟨paid, hpaid, hdate⟩ := hcells 1 _ _ rfl rfl
    obtain ⟨due, hdue, htotal⟩ := hcells 2 _ _ rfl rfl
    cases hdate
    cases htotal
    exact ⟨hrequests, _, rfl, hpaid, hdue⟩

end Rows

end TypedSql
