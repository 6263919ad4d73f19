import TypedSql.Text.Hex
import TypedSql.Text.Visible
/-!
# Quoted texts

Texts in diagnostics: between double quotes, with escapes for quotes, backslashes, line ends and
everything else that does not show.

## Main definitions

- `Quoted.escape`: a character as it is written.
- `Quoted.text`, `Quoted.option`: the text, and a text that may be missing.
- `Quoted.parse?`: the text that is written between quotes.
-/

namespace TypedSql.Quoted

/-- A character as it is written between quotes. -/
def escape (c : Char) : List Char :=
  if c = '"' then ['\\', '"']
  else if c = '\\' then ['\\', '\\']
  else if c = '\n' then ['\\', 'n']
  else if c = '\r' then ['\\', 'r']
  else if c = '\t' then ['\\', 't']
  else if c = '\x00' then ['\\', '0']
  else if Visible.isVisible c then [c]
  else '\\' :: 'u' :: '\x7b' :: Hex.ofNat c.toNat ++ ['\x7d']

/-- The text between double quotes. -/
def text (s : String) : String :=
  String.ofList ('"' :: s.toList.flatMap escape ++ ['"'])

/-- A text that may be missing. -/
def option : Option String → String
  | none => "None"
  | some s => "Some(" ++ text s ++ ")"

/-- The character that a backslash and another character stand for. -/
def unescape? (c : Char) : Option Char :=
  if c = '"' ∨ c = '\\' ∨ c = '\'' then some c
  else if c = 'n' then some '\n'
  else if c = 'r' then some '\r'
  else if c = 't' then some '\t'
  else if c = '0' then some '\x00'
  else none

/-- The characters before the closing quote, which comes last. -/
def untilClosed? : List Char → Option (List Char)
  | ['"'] => some []
  | '\\' :: c :: rest => do return (← unescape? c) :: (← untilClosed? rest)
  | c :: rest => if c = '"' then none else (untilClosed? rest).map (c :: ·)
  | [] => none

/-- The text that is written between quotes, where simple escapes stand for their characters. -/
def parse? (source : String) : Option String :=
  match source.toList with
  | '"' :: rest => (untilClosed? rest).map String.ofList
  | _ => none

end TypedSql.Quoted
