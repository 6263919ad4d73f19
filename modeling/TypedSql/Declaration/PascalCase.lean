/-!
# Names in Pascal case

Names of fields have their words between underscores; names of columns have them together, each
beginning with a capital letter.

## Main definitions

- `pascalCase`: the words of a name together.
-/

namespace TypedSql

/-- The words of a name together, in one pass: the first letter after an underscore, or at the
beginning if `capital`, is a capital one. Letters beyond ASCII stay as they are. -/
def pascalCaseFrom (capital : Bool) : List Char → List Char
  | [] => []
  | c :: rest =>
    if c = '_' then pascalCaseFrom true rest
    else (if capital then c.toUpper else c) :: pascalCaseFrom false rest

/-- The words of a name together. -/
def pascalCase (name : String) : String := String.ofList (pascalCaseFrom true name.toList)

end TypedSql
