import TypedSql.Fragment
/-!
# Views of fragments

The bindings, the text with placeholders and the text with literals of a fragment, taken apart
where the fragment is. The text with placeholders of a later part depends on how many bindings are
in the part before it, and on nothing else there.

## Main statements

- `Fragment.boundSqlFrom_append`, `Fragment.inlineSql_append`, `Fragment.bindings_append`.
- `Fragment.commaSeparated_cons_cons`: a list with commas, one fragment at a time.
-/

namespace TypedSql.Fragment

variable (d : Dialect) (style : PlaceholderStyle) (position : Nat)

@[simp]
theorem bindings_nil : bindings [] = [] := rfl

@[simp]
theorem bindings_text_cons (s : String) (f : Fragment) : bindings (.text s :: f) = bindings f := rfl

@[simp]
theorem bindings_binding_cons (b : Binding) (f : Fragment) :
    bindings (.binding b :: f) = b :: bindings f := rfl

@[simp]
theorem bindings_append (f g : Fragment) : bindings (f ++ g) = bindings f ++ bindings g :=
  List.filterMap_append

theorem boundSqlFrom_append (f g : Fragment) :
    boundSqlFrom style position (f ++ g) =
      boundSqlFrom style position f ++ boundSqlFrom style (position + f.bindings.length) g := by
  induction f generalizing position with
  | nil => simp [boundSqlFrom]
  | cons p f ih =>
    cases p with
    | text s => simp [boundSqlFrom, ih, String.append_assoc]
    | binding b => simp [boundSqlFrom, ih, String.append_assoc, Nat.add_assoc, Nat.add_comm 1]

@[simp]
theorem inlineSql_append (f g : Fragment) :
    inlineSql d (f ++ g) = inlineSql d f ++ inlineSql d g := by
  induction f with
  | nil => simp [inlineSql]
  | cons p f ih => cases p <;> simp [inlineSql, ih, String.append_assoc]

@[simp]
theorem inlineSql_ofText (s : String) : inlineSql d (ofText s) = s := by
  simp [ofText, inlineSql]

@[simp]
theorem commaSeparated_singleton (f : Fragment) : commaSeparated [f] = f := by
  simp [commaSeparated]

theorem commaSeparated_cons_cons (f g : Fragment) (rest : List Fragment) :
    commaSeparated (f :: g :: rest) = f ++ ofText "," ++ commaSeparated (g :: rest) :=
  List.intercalate_cons_cons

end TypedSql.Fragment
