import Mathlib
import TypedSql.Proofs.DerivedRows
/-!
# Names of derived columns

A column without a name of its own is called after its field. The words of the field's name, which
have underscores between them, are put together with a capital letter each; where nothing is left,
there is no name and the declaration is an error.

That holds for what is written in the declaration, with the mark that a reserved word needs to be
the name of a field. The mark counts as a letter of the first word. So the column of such a field
has the mark in its name, where the descriptor of a row whose name is a reserved word leaves it out.

## Main definitions

- `joinedWords`: the words of a name, found by splitting it.
- `identifierName`, `isRawIdentifier`: the name that is written, with the mark or without.
- `RowDeclaration.IsRegular`: nothing is wrong with a declaration but names of columns.

## Main statements

- `pascalCase_eq_joinedWords`: the conversion in one pass joins the words.
- `pascalCase_pascalCase`: converting again changes nothing.
- `RowDeclaration.describe_eq`: such a declaration is an error if and only if a column has no name.
- `default_names_join_words_iff`: columns are called after the names of their fields, unless these
  are written with the mark.
-/

namespace TypedSql

section Words

/-- A word with a capital first letter. Letters beyond ASCII have none. -/
def capitalised : List Char → List Char
  | [] => []
  | c :: rest => c.toUpper :: rest

/-- The words of a name that are not empty, each with a capital first letter, put together. -/
def joinedWords (name : String) : String :=
  String.ofList (((name.toList.splitOn '_').filter (· ≠ [])).flatMap capitalised)

/-- Empty words add nothing. -/
theorem flatMap_capitalised_filter (words : List (List Char)) :
    (words.filter (· ≠ [])).flatMap capitalised = words.flatMap capitalised := by
  induction words with
  | nil => rfl
  | cons w words ih => cases w <;> simp_all [capitalised]

/-- One pass finds the words. The first is capitalised if a word begins at the beginning. -/
theorem pascalCaseFrom_eq (capital : Bool) (name : List Char) : ∃ first words,
    name.splitOn '_' = first :: words ∧
      pascalCaseFrom capital name =
        (if capital then capitalised first else first) ++ words.flatMap capitalised := by
  induction name generalizing capital with
  | nil => exact ⟨[], [], rfl, by cases capital <;> rfl⟩
  | cons c rest ih =>
    rw [List.splitOn_eq_splitOnP, List.splitOnP_cons_eq_if_modifyHead]
    by_cases hc : c = '_'
    · -- the first word ends here, and another begins
      obtain ⟨first, words, hsplit, hrest⟩ := ih true
      rw [List.splitOn_eq_splitOnP] at hsplit
      subst hc
      refine ⟨[], first :: words, by simp [hsplit], ?_⟩
      cases capital <;> simpa [pascalCaseFrom, capitalised] using hrest
    · obtain ⟨first, words, hsplit, hrest⟩ := ih false
      rw [List.splitOn_eq_splitOnP] at hsplit
      refine ⟨c :: first, words, by simp [hc, hsplit], ?_⟩
      cases capital <;> simpa [pascalCaseFrom, hc, capitalised] using hrest

theorem pascalCase_eq_joinedWords (name : String) : pascalCase name = joinedWords name := by
  obtain ⟨first, words, hsplit, hname⟩ := pascalCaseFrom_eq true name.toList
  rw [pascalCase, joinedWords, flatMap_capitalised_filter, hsplit, hname]
  rfl

/-- A character that is no capital letter is not made by capitalising another one. -/
theorem toUpper_ne {c x : Char} (hx : x.isUpper = false) (h : c ≠ x) : c.toUpper ≠ x := by
  by_cases hlower : c.isLower
  · rintro rfl
    simp [Char.isAlpha, hlower] at hx
  · rwa [Char.toUpper_eq_of_not_isLower hlower]

/-- The conversion brings in capital letters only. -/
theorem notMem_pascalCaseFrom {x : Char} (hx : x.isUpper = false) {name : List Char}
    (hname : x ∉ name) (capital : Bool) : x ∉ pascalCaseFrom capital name := by
  induction name generalizing capital with
  | nil => exact hname
  | cons c rest ih =>
    obtain ⟨hc, hrest⟩ := List.ne_and_not_mem_of_not_mem_cons hname
    rw [pascalCaseFrom]
    split
    · exact ih hrest true
    · refine List.not_mem_cons_of_ne_of_not_mem ?_ (ih hrest false)
      cases capital
      · exact hc
      · exact (toUpper_ne hx hc.symm).symm

theorem underscore_notMem_pascalCaseFrom (capital : Bool) (name : List Char) :
    '_' ∉ pascalCaseFrom capital name := by
  induction name generalizing capital with
  | nil => exact List.not_mem_nil
  | cons c rest ih =>
    rw [pascalCaseFrom]
    split
    · exact ih true
    · next hc =>
      refine List.not_mem_cons_of_ne_of_not_mem ?_ (ih false)
      cases capital
      · exact Ne.symm hc
      · exact (toUpper_ne rfl hc).symm

theorem capitalised_pascalCaseFrom (name : List Char) :
    capitalised (pascalCaseFrom true name) = pascalCaseFrom true name := by
  induction name with
  | nil => rfl
  | cons c rest ih =>
    rw [pascalCaseFrom]
    split
    · exact ih
    · simp [capitalised]

/-- Without underscores there is one word. -/
theorem pascalCaseFrom_of_notMem {name : List Char} (h : '_' ∉ name) (capital : Bool) :
    pascalCaseFrom capital name = if capital then capitalised name else name := by
  induction name generalizing capital with
  | nil => cases capital <;> rfl
  | cons c rest ih =>
    obtain ⟨hc, hrest⟩ := List.ne_and_not_mem_of_not_mem_cons h
    rw [pascalCaseFrom, if_neg hc.symm, ih hrest false]
    cases capital <;> rfl

theorem pascalCase_pascalCase (name : String) : pascalCase (pascalCase name) = pascalCase name := by
  have hunderscore := underscore_notMem_pascalCaseFrom true name.toList
  simp only [pascalCase, String.toList_ofList]
  rw [pascalCaseFrom_of_notMem hunderscore, if_pos rfl, capitalised_pascalCaseFrom]

end Words

section Identifiers

/-- The name that is written, without the mark of a reserved word. -/
def identifierName (written : String) : String :=
  match written.toList with
  | 'r' :: '#' :: rest => String.ofList rest
  | _ => written

/-- Whether the name is written with the mark of a reserved word. -/
def isRawIdentifier (written : String) : Bool :=
  match written.toList with
  | 'r' :: '#' :: _ => true
  | _ => false

theorem identifierName_eq_self {written : String} (h : isRawIdentifier written = false) :
    identifierName written = written := by
  unfold isRawIdentifier at h
  unfold identifierName
  split <;> simp_all

theorem toList_of_isRawIdentifier {written : String} (h : isRawIdentifier written) :
    written.toList = 'r' :: '#' :: (identifierName written).toList := by
  unfold isRawIdentifier at h
  unfold identifierName
  split at h
  · next rest hwritten => simp [hwritten]
  · cases h

/-- The mark is the beginning of the first word. -/
theorem pascalCase_of_isRawIdentifier {written : String} (h : isRawIdentifier written) :
    (pascalCase written).toList =
      'R' :: '#' :: pascalCaseFrom false (identifierName written).toList := by
  rw [pascalCase, String.toList_ofList, toList_of_isRawIdentifier h]
  simp [pascalCaseFrom]

end Identifiers

section Declarations

variable {τ : Type} {row : RowDeclaration τ} {f : FieldDeclaration τ}

/-- The attributes of the field can be read. -/
def FieldDeclaration.IsReadable (f : FieldDeclaration τ) : Prop :=
  ∃ s, f.attributes.foldlM ColumnSettings.apply {} = .ok s

/-- Nothing is wrong with the declaration, but that columns may have no name. -/
structure RowDeclaration.IsRegular (row : RowDeclaration τ) : Prop where
  attributes : ∃ s, row.attributes.foldlM TableSettings.apply { name := row.name } = .ok s
  shape : row.shape = .named
  fields : ∀ f ∈ row.fields, f.IsReadable
  keys : row.fields.countP (·.hasFlag "primary_key") ≤ 1

/-- No attribute names the column. -/
def FieldDeclaration.HasDefaultName (f : FieldDeclaration τ) : Prop :=
  ∀ a ∈ f.attributes, a.key ≠ "name"

theorem FieldDeclaration.HasDefaultName.columnName_eq (h : f.HasDefaultName) :
    f.columnName = pascalCase f.name := by
  have hnone : f.attributes.filterMap Attribute.columnName? = [] := by
    rw [List.filterMap_eq_nil_iff]
    intro a ha
    unfold Attribute.columnName?
    split
    · next hkey _ => exact (h a ha hkey).elim
    · rfl
  rw [columnName, hnone]
  rfl

theorem FieldDeclaration.IsReadable.describe_eq (h : f.IsReadable) :
    f.describe = if f.columnName = "" then .error .emptyColumnName else .ok f.column := by
  obtain ⟨s, hs⟩ := h
  rw [describe, hs]
  obtain rfl := ColumnSettings.eq_of_foldlM hs
  simp only [Option.or_none, Bool.false_or]
  rfl

theorem mapM_describe {fields : List (FieldDeclaration τ)} (h : ∀ f ∈ fields, f.IsReadable) :
    fields.mapM FieldDeclaration.describe =
      if ∃ f ∈ fields, f.columnName = "" then .error .emptyColumnName
      else .ok (fields.map (·.column)) := by
  induction fields with
  | nil => rfl
  | cons f rest ih =>
    obtain ⟨hf, hrest⟩ := List.forall_mem_cons.1 h
    rw [List.mapM_cons, hf.describe_eq, ih hrest]
    by_cases hname : f.columnName = ""
    · simp [hname]
      rfl
    · by_cases hlater : ∃ g ∈ rest, g.columnName = ""
      · simp [hname, hlater]
        rfl
      · simp [hname, hlater]
        rfl

/-- A declaration that is regular is an error if and only if a column has no name. -/
theorem RowDeclaration.IsRegular.describe_eq (h : row.IsRegular) :
    ∃ s : TableSettings, row.describe =
      if ∃ f ∈ row.fields, f.columnName = "" then .error .emptyColumnName
      else .ok ⟨row.name, s.name, s.schema?, s.enclosed, row.fields.map (·.column)⟩ := by
  obtain ⟨s, hs⟩ := h.attributes
  have hkeys : (row.fields.map (·.column)).countP (·.primaryKey) ≤ 1 := by
    rw [List.countP_map]
    exact h.keys
  refine ⟨s, ?_⟩
  rw [describe, hs, h.shape, mapM_describe h.fields]
  split
  · rfl
  · show (if 1 < (row.fields.map (·.column)).countP (·.primaryKey) then _ else _) = _
    rw [if_neg (Nat.not_lt.2 hkeys)]

/-- A column that is named by default is called after the words of its field's name, put together,
if and only if this name is written without the mark of a reserved word. It then has no underscores
and no mark, and would be called after itself. With the mark, the column has it in its name.
Identifiers have a `#` in the mark only, which is all that is asked of a field's name here.
A declaration with nothing else wrong is an error if and only if a column has no name. -/
theorem default_names_join_words_iff (hrow : row.IsRegular) :
    ((∃ f ∈ row.fields, f.columnName = "") → row.describe = .error .emptyColumnName) ∧
    ((∀ f ∈ row.fields, f.columnName ≠ "") →
      ∃ d, row.describe = .ok d ∧ d.columnNames = row.fields.map (·.columnName)) ∧
    ∀ f ∈ row.fields, f.HasDefaultName → '#' ∉ (identifierName f.name).toList →
      (f.columnName = joinedWords (identifierName f.name) ↔ isRawIdentifier f.name = false) ∧
      (isRawIdentifier f.name = false → '_' ∉ f.columnName.toList ∧ '#' ∉ f.columnName.toList ∧
        pascalCase f.columnName = f.columnName) ∧
      (isRawIdentifier f.name → f.columnName.toList =
        'R' :: '#' :: pascalCaseFrom false (identifierName f.name).toList) := by
  obtain ⟨s, hdescribe⟩ := hrow.describe_eq
  refine ⟨?_, ?_, ?_⟩
  · intro hunnamed
    rw [hdescribe, if_pos hunnamed]
  · intro hnamed
    rw [hdescribe, if_neg (by simpa using hnamed)]
    exact ⟨_, rfl, List.map_map⟩
  · intro f _ hdefault hmark
    rw [hdefault.columnName_eq]
    refine ⟨⟨?_, ?_⟩, ?_, pascalCase_of_isRawIdentifier⟩
    · -- no word of the name has the mark
      intro hname
      rw [Bool.eq_false_iff]
      intro hraw
      have hmem : '#' ∈ (pascalCase f.name).toList := by
        simp [pascalCase_of_isRawIdentifier hraw]
      rw [hname, ← pascalCase_eq_joinedWords, pascalCase, String.toList_ofList] at hmem
      exact notMem_pascalCaseFrom rfl hmark true hmem
    · intro hraw
      rw [identifierName_eq_self hraw, pascalCase_eq_joinedWords]
    · intro hraw
      rw [identifierName_eq_self hraw] at hmark
      refine ⟨?_, ?_, pascalCase_pascalCase f.name⟩
      · rw [pascalCase, String.toList_ofList]
        exact underscore_notMem_pascalCaseFrom true _
      · rw [pascalCase, String.toList_ofList]
        exact notMem_pascalCaseFrom rfl hmark true

/-- An invoice for a customer, with a type. -/
def typedInvoice : RowDeclaration String where
  name := "Invoice"
  fields := [{ name := "customer_id", type := "i32" }, { name := "r#type", type := "i32" }]

theorem column_names_of_typedInvoice :
    (∃ d, typedInvoice.describe = .ok d ∧ d.columnNames = ["CustomerId", "R#type"]) ∧
      "CustomerId" = joinedWords (identifierName "customer_id") ∧
      "R#type" ≠ joinedWords (identifierName "r#type") := by
  have hregular : typedInvoice.IsRegular :=
    ⟨⟨_, rfl⟩, rfl, by simp [typedInvoice, FieldDeclaration.IsReadable, pure, Except.pure],
      by decide⟩
  obtain ⟨-, hnamed, hnames⟩ := default_names_join_words_iff hregular
  obtain ⟨hcustomer, -⟩ := hnames { name := "customer_id", type := "i32" } (by simp [typedInvoice])
    nofun (by decide)
  obtain ⟨htype, -⟩ := hnames { name := "r#type", type := "i32" } (by simp [typedInvoice])
    nofun (by decide)
  refine ⟨hnamed (by decide), hcustomer.2 rfl, ?_⟩
  intro hjoined
  exact absurd (htype.1 hjoined) (by decide)

/-- The name of the type is a word that should give `Type`, and the column has the mark instead. -/
theorem column_name_of_reserved_word :
    joinedWords (identifierName "r#type") = "Type" ∧
      ∃ d, typedInvoice.describe = .ok d ∧ d.columnNames[1]? = some "R#type" :=
  ⟨by decide, _, rfl, by decide⟩

end Declarations

end TypedSql
