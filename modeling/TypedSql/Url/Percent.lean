import TypedSql.Text.Hex
import TypedSql.Text.Utf8
/-!
# Percent-encoded text

In the parts of a URL a percent sign and two hexadecimal digits stand for a byte, and every other
character for its own bytes. In a query a plus sign is also a blank.

## Main definitions

- `Percent.bytes`: the bytes that a part of a URL stands for.
- `Percent.text`: these bytes as text, which they need not be.
- `Percent.formText`: a text of a query, where bytes that are no text are replaced.
-/

namespace TypedSql.Percent

/-- The bytes that a part of a URL stands for. -/
def bytes : List Char → List UInt8
  | '%' :: high :: low :: rest =>
    match Hex.value? [high, low] with
    | some n => .ofNat n :: bytes rest
    | none => String.utf8EncodeChar '%' ++ bytes (high :: low :: rest)
  | c :: rest => String.utf8EncodeChar c ++ bytes rest
  | [] => []

/-- The text that a part of a URL stands for. -/
def text (part : List Char) : Except Utf8Error (List Char) := Utf8.decode (bytes part)

/-- The text that a part of a query stands for. -/
def formText (part : List Char) : List Char :=
  Utf8.decodeLossy (bytes (part.map fun c => if c = '+' then ' ' else c))

end TypedSql.Percent
