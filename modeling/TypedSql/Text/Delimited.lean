/-!
# Delimited text

String literals and quoted identifiers put an opening and a closing character around a text and
write the closing character twice where the text contains it, so that a single one can only be the
end.

## Main definitions

- `Delimited.doubled`: the text with each closing character doubled.
- `Delimited.enclose`: the whole delimited form.
-/

namespace TypedSql.Delimited

/-- The characters with each occurrence of `closing` written twice. -/
def doubled (closing : Char) (cs : List Char) : List Char :=
  cs.flatMap fun c => if c = closing then [closing, c] else [c]

/-- The text between its delimiters. -/
def enclose (opening closing : Char) (s : String) : String :=
  String.ofList (opening :: doubled closing s.toList ++ [closing])

/-- The text between apostrophes. -/
def apostrophes (s : String) : String := enclose '\'' '\'' s

end TypedSql.Delimited
