import TypedSql.Proofs.Lexemes
/-!
# Reading identifiers

A reader of names as the dialects define them. A name between its delimiters may hold anything. A
bare one is as long as its characters go, and PostgreSQL folds it to lower case, so that a bare name
is read back only if folding leaves it alone. The reader knows nothing of how names are written, and
reads every name that is.

## Main definitions

- `Dialect.readName?`: the name in front of a text, and what follows it.
- `Dialect.readTableName?`: the name of a table in front of a text, after its schema if it has one.
- `Dialect.FollowsName`: what can follow a name.
- `Dialect.keywords`: the words that the dialect reserves.

## Main statements

- `Dialect.readName?_identifier`, `Dialect.readTableName?_tableName`: names read back.
- `Dialect.identifier_ne_keyword`: a bare name is no reserved word in any letter case.
- `identifiers_read_back`: both, and the names of different tables differ.

## Design notes

Which characters beyond ASCII are letters depends on the database, and is left open. So is whether
it accepts an empty name.
-/

namespace TypedSql

namespace Dialect

variable (d : Dialect)

section Rules

-- which characters beyond ASCII are letters
variable (isLetter : Char → Bool)

/-- Whether a bare name can begin with a character. -/
def beginsName (c : Char) : Bool :=
  c.isAlpha || c == '_' || decide (128 ≤ c.toNat) && isLetter c || d == sqlServer && c == '#'

/-- Whether a bare name goes on with a character. -/
def continuesName (c : Char) : Bool :=
  isNameChar c || decide (128 ≤ c.toNat) && isLetter c || c == '$'
    || d == sqlServer && (c == '@' || c == '#')

/-- The name that a bare word stands for. -/
def folded (word : List Char) : List Char :=
  match d with
  | sqlServer => word
  | postgres => word.map Char.toLower

/-- The name in front of a text, and what follows it. -/
def readName? : List Char → Option (List Char × List Char)
  | [] => none
  | c :: cs =>
    if c = d.quotes.1 then Delimited.read? d.quotes.2 cs
    else if d.beginsName isLetter c then
      some (d.folded ((c :: cs).takeWhile (d.continuesName isLetter)),
        (c :: cs).dropWhile (d.continuesName isLetter))
    else none

/-- The name of a table in front of a text, after its schema if a dot comes behind the first name,
and what follows. -/
def readTableName? (cs : List Char) : Option (Option (List Char) × List Char × List Char) := do
  let (first, after) ← d.readName? isLetter cs
  match after with
  | '.' :: cs =>
    let (name, after) ← d.readName? isLetter cs
    return (some first, name, after)
  | _ => return (none, first, after)

/-- What can follow a name: nothing, or a text that begins neither with a character that would
continue it nor with a closing delimiter. -/
def FollowsName (after : List Char) : Prop :=
  ∀ c ∈ after.head?, d.continuesName isLetter c = false ∧ c ≠ d.quotes.2

end Rules

/-- The words that the dialect reserves. -/
def keywords : Dialect → List String
  | sqlServer => Keywords.shared ++ Keywords.sqlServer
  | postgres => Keywords.shared ++ Keywords.postgres

theorem isReserved_iff {d : Dialect} {word : String} :
    d.isReserved word ↔ word.map Char.toUpper ∈ d.keywords := by
  cases d with
  | sqlServer => simp [isReserved, Keywords.reserves, keywords]
  | postgres => simp [isReserved, Keywords.reserves, keywords]

end Dialect

section Bare

theorem Char.toLower_eq_self {c : Char} (h : c.isUpper = false) : c.toLower = c := by
  unfold Char.isUpper at h
  exact dif_neg (by simpa using h)

/-- A plain identifier begins with a letter or an underscore. -/
theorem exists_cons_of_isPlainIdentifier {name : String} (h : isPlainIdentifier name) :
    ∃ first rest, name.toList = first :: rest ∧ (first.isAlpha || first == '_') = true := by
  unfold isPlainIdentifier at h
  cases hname : name.toList with
  | nil => simp [hname] at h
  | cons first rest =>
    rw [hname] at h
    exact ⟨first, rest, rfl, (Bool.and_eq_true _ _ ▸ h).1⟩

namespace Dialect

variable {d : Dialect}

/-- No name begins with a character that opens a delimited one. -/
theorem ne_opening {c : Char} (h : (c.isAlpha || c == '_') = true) : c ≠ d.quotes.1 := by
  rintro rfl
  cases d <;> exact absurd h (by decide)

variable {name : String} (h : d.needsQuoting name = false)

include h

theorem isPlainIdentifier_of_needsQuoting : isPlainIdentifier name :=
  d.isPlainIdentifier_of_not_needsQuoting (show ¬(false || d.needsQuoting name) by simp [h])

/-- Folding leaves a name alone that needs no delimiters. -/
theorem folded_of_needsQuoting : d.folded name.toList = name.toList := by
  cases d with
  | sqlServer => rfl
  | postgres =>
    have hlower : ∀ c ∈ name.toList, c.isUpper = false := by
      simp only [needsQuoting, Bool.or_eq_false_iff] at h
      simpa using h.1.1
    calc name.toList.map Char.toLower
        = name.toList.map id :=
          List.map_congr_left fun c hc => Char.toLower_eq_self (hlower c hc)
      _ = name.toList := List.map_id _

/-- A name that needs no delimiters is no reserved word, however it is spelled. -/
theorem ne_keyword_of_needsQuoting {k : String} (hk : k ∈ d.keywords) :
    k.map Char.toUpper ≠ name.map Char.toUpper := by
  have htables : ∀ k ∈ d.keywords, k.toList.map Char.toUpper = k.toList := by
    cases d <;> decide +kernel
  have hupper : k.map Char.toUpper = k := by
    rw [← String.toList_inj, String.toList_map, htables k hk]
  rw [hupper]
  rintro rfl
  simp [needsQuoting, isReserved_iff.2 hk] at h

end Dialect

end Bare

namespace Dialect

variable (d : Dialect)

section Reading

variable {isLetter : Char → Bool} {after : List Char}

/-- A bare name is as long as its characters go. -/
theorem readName?_of_needsQuoting {name : String} (h : d.needsQuoting name = false)
    (hafter : d.FollowsName isLetter after) :
    d.readName? isLetter (name.toList ++ after) = some (name.toList, after) := by
  have hplain := isPlainIdentifier_of_needsQuoting h
  obtain ⟨first, rest, hname, hfirst⟩ := exists_cons_of_isPlainIdentifier hplain
  have hchars : ∀ c ∈ name.toList, d.continuesName isLetter c := by
    intro c hc
    simp [continuesName, (isNameChar_of_isPlainIdentifier hplain).2 c hc]
  have hbegins : d.beginsName isLetter first := by
    rw [beginsName, hfirst]
    rfl
  -- what follows ends the name
  have hstop : after.takeWhile (d.continuesName isLetter) = [] ∧
      after.dropWhile (d.continuesName isLetter) = after := by
    cases after with
    | nil => exact ⟨rfl, rfl⟩
    | cons c cs => simp [(hafter c rfl).1]
  have htake : (name.toList ++ after).takeWhile (d.continuesName isLetter) = name.toList := by
    rw [List.takeWhile_append_of_pos hchars, hstop.1, List.append_nil]
  have hdrop : (name.toList ++ after).dropWhile (d.continuesName isLetter) = after := by
    rw [List.dropWhile_append_of_pos hchars, hstop.2]
  calc d.readName? isLetter (name.toList ++ after)
      = some (d.folded ((name.toList ++ after).takeWhile (d.continuesName isLetter)),
          (name.toList ++ after).dropWhile (d.continuesName isLetter)) := by
        rw [hname, List.cons_append, readName?, if_neg (ne_opening hfirst), if_pos hbegins]
    _ = some (name.toList, after) := by rw [htake, hdrop, folded_of_needsQuoting h]

/-- Folding would change a bare name with an upper-case letter. -/
example : postgres.readName? (fun _ => true) ['T', 'o', 'p', 's', ','] =
    some (['t', 'o', 'p', 's'], [',']) := by decide

/-- A written name is read back, and reading stops where it ends. -/
theorem readName?_identifier (name : String) (enclosed : Bool)
    (hafter : d.FollowsName isLetter after) :
    d.readName? isLetter ((d.identifier name enclosed).toList ++ after) =
      some (name.toList, after) := by
  by_cases hquoted : enclosed || d.needsQuoting name
  · have hclosing : after.head? ≠ some d.quotes.2 := fun hhead => (hafter _ hhead).2 rfl
    have hread := Delimited.read?_doubled name.toList hclosing
    rw [identifier, if_pos hquoted]
    simpa [Delimited.enclose, readName?] using hread
  · rw [identifier, if_neg hquoted]
    rw [Bool.not_eq_true, Bool.or_eq_false_iff] at hquoted
    exact d.readName?_of_needsQuoting hquoted.2 hafter

/-- The dot behind a schema ends its name. -/
theorem followsName_dot (isLetter : Char → Bool) (cs : List Char) :
    d.FollowsName isLetter ('.' :: cs) := by
  rintro c ⟨⟩
  cases d <;> exact ⟨rfl, by decide⟩

/-- The written name of a table is read back with its schema. -/
theorem readTableName?_tableName (t : Table) (hafter : d.FollowsName isLetter after)
    (hdot : after.head? ≠ some '.') :
    d.readTableName? isLetter ((d.tableName t).toList ++ after) =
      some (t.schema?.map String.toList, t.name.toList, after) := by
  have hname := d.readName?_identifier t.name t.enclosed hafter
  cases hschema : t.schema? with
  | none =>
    rw [tableName, hschema, readTableName?, hname]
    cases after with
    | nil => rfl
    | cons c cs =>
      have hc : c ≠ '.' := fun heq => hdot (congrArg some heq)
      simp [hc]
  | some schema =>
    have hread := d.readName?_identifier schema t.enclosed
      (d.followsName_dot isLetter ((d.identifier t.name t.enclosed).toList ++ after))
    have htext : (d.tableName t).toList ++ after = (d.identifier schema t.enclosed).toList ++
        '.' :: ((d.identifier t.name t.enclosed).toList ++ after) := by
      simp [tableName, hschema]
    rw [htext, readTableName?, hread]
    simp [hname]

end Reading

/-- A name written without delimiters is no reserved word in any letter case. -/
theorem identifier_ne_keyword {name : String} {enclosed : Bool}
    (hbare : (d.identifier name enclosed).toList.head? ≠ some d.quotes.1) {k : String}
    (hk : k ∈ d.keywords) : k.map Char.toUpper ≠ (d.identifier name enclosed).map Char.toUpper := by
  by_cases hquoted : enclosed || d.needsQuoting name
  · rw [identifier, if_pos hquoted] at hbare
    exact absurd (by simp [Delimited.enclose]) hbare
  · rw [identifier, if_neg hquoted]
    rw [Bool.not_eq_true, Bool.or_eq_false_iff] at hquoted
    exact ne_keyword_of_needsQuoting hquoted.2 hk

/-- The written name of a table says what its name is and what its schema, if it has one. -/
theorem eq_of_tableName_eq {t u : Table} (h : d.tableName t = d.tableName u) :
    t.schema? = u.schema? ∧ t.name = u.name := by
  have hnothing : d.FollowsName (fun _ => false) [] := by rintro c ⟨⟩
  have hread := d.readTableName?_tableName t hnothing (by simp)
  rw [h, d.readTableName?_tableName u hnothing (by simp)] at hread
  obtain ⟨hschema, hname, -⟩ : u.schema?.map String.toList = t.schema?.map String.toList ∧
      u.name.toList = t.name.toList ∧ True := by simpa using hread
  have hinjective : Function.Injective String.toList := fun _ _ => String.toList_inj.1
  exact ⟨(Option.map_injective hinjective hschema).symm, hinjective hname.symm⟩

end Dialect

/-- A written name, delimited or not, is read back whatever the database takes for a letter, and
reading stops where it ends. A name without delimiters is no reserved word in any letter case. So
tables whose names or schemas differ are never written alike. -/
theorem identifiers_read_back (d : Dialect) (isLetter : Char → Bool) :
    (∀ (name : String) (enclosed : Bool) (after : List Char), d.FollowsName isLetter after →
      d.readName? isLetter ((d.identifier name enclosed).toList ++ after) =
        some (name.toList, after)) ∧
    (∀ (name : String) (enclosed : Bool),
      (d.identifier name enclosed).toList.head? ≠ some d.quotes.1 →
        ∀ k ∈ d.keywords, k.map Char.toUpper ≠ (d.identifier name enclosed).map Char.toUpper) ∧
    ∀ t u : Table, d.tableName t = d.tableName u → t.schema? = u.schema? ∧ t.name = u.name :=
  ⟨fun name enclosed _ hafter => d.readName?_identifier name enclosed hafter,
    fun _ _ hbare _ hk => d.identifier_ne_keyword hbare hk, fun _ _ h => d.eq_of_tableName_eq h⟩

/-- Two instances of one table, whose names hold what delimits them, and a bare name. -/
theorem hostile_identifiers_read_back :
    let d := Dialect.postgres
    let t : Table := ⟨some "a\".\"b", "Wh\"ere", false, ⟨0, 0⟩⟩
    let u : Table := { t with enclosed := true, id := ⟨0, 1⟩ }
    d.FollowsName (fun _ => true) ['.'] ∧
    d.readName? (fun _ => true) ((d.identifier t.name false).toList ++ ['.']) =
      some (t.name.toList, ['.']) ∧
    (d.identifier "tops" false).toList.head? ≠ some d.quotes.1 ∧
    (∀ k ∈ d.keywords, k.map Char.toUpper ≠ (d.identifier "tops" false).map Char.toUpper) ∧
    d.tableName t = d.tableName u ∧ t.schema? = u.schema? ∧ t.name = u.name := by
  intro d t u
  have hdot : d.FollowsName (fun _ => true) ['.'] := d.followsName_dot _ []
  have hbare : (d.identifier "tops" false).toList.head? ≠ some d.quotes.1 := by decide +kernel
  have halike : d.tableName t = d.tableName u := by decide +kernel
  obtain ⟨hread, hkeywords, htables⟩ := identifiers_read_back d fun _ => true
  exact ⟨hdot, hread t.name false ['.'] hdot, hbare, hkeywords "tops" false hbare, halike,
    htables t u halike⟩

end TypedSql
