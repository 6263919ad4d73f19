/-!
# Types in declarations

The type of a declared field is a text without spaces. A field whose type is `Option` of another
may be missing; its column has the type inside.

## Main definitions

- `TypeText.withoutBlanks`: the text without spaces.
- `TypeText.segments?`: the parts of a path with their arguments.
- `TypeText.optionArgument?`: the type inside of `Option`.
-/

namespace TypedSql.TypeText

/-- The characters that separate words: spaces and line ends, and the marks of direction. -/
def isBlank (c : Char) : Bool :=
  let n := c.toNat
  (0x09 ≤ n && n ≤ 0x0D) || n = 0x20 || n = 0x85 || n = 0x200E || n = 0x200F || n = 0x2028
    || n = 0x2029

/-- The text without what separates its words. -/
def withoutBlanks (type : String) : String := String.ofList (type.toList.filter (!isBlank ·))

/-- The bracket that closes another. -/
def closing? (c : Char) : Option Char :=
  if c = '<' then some '>' else if c = '(' then some ')' else if c = '[' then some ']'
  else if c = '\x7b' then some '\x7d' else none

/-- The text up to the bracket that closes the open ones, and the text after it. The head of an
arrow closes nothing. -/
def untilClosed (pending : List Char) : List Char → Option (List Char × List Char)
  | [] => none
  | '-' :: '>' :: rest =>
    (untilClosed pending rest).map fun (inner, after) => ('-' :: '>' :: inner, after)
  | c :: rest =>
    match closing? c with
    | some close =>
      (untilClosed (close :: pending) rest).map fun (inner, after) => (c :: inner, after)
    | none =>
      match pending with
      | close :: outer =>
        if c = close then
          if outer = [] then some ([], rest)
          else (untilClosed outer rest).map fun (inner, after) => (c :: inner, after)
        else (untilClosed pending rest).map fun (inner, after) => (c :: inner, after)
      | [] => none

/-- The text up to the first comma outside of brackets. -/
def firstArgument (pending : List Char) : List Char → List Char
  | [] => []
  | '-' :: '>' :: rest => '-' :: '>' :: firstArgument pending rest
  | c :: rest =>
    if c = ',' ∧ pending = [] then []
    else
      match closing? c with
      | some close => c :: firstArgument (close :: pending) rest
      | none => c :: firstArgument (if pending.head? = some c then pending.tail else pending) rest

/-- Whether the character can stand in a name. -/
def isWord (c : Char) : Bool :=
  c.isAlphanum || c = '_' || c = '#' || decide (0x80 ≤ c.toNat)

/-- A part of a path: a name, with the text of its arguments if it has any. -/
structure Segment where
  name : List Char
  arguments? : Option (List Char)

/-- The parts of a path, of which there are at most `fuel`. -/
def segmentsFrom? : Nat → List Char → Option (List Segment)
  | 0, _ => none
  | fuel + 1, chars =>
    let name := chars.takeWhile isWord
    let after (arguments? : Option (List Char)) (rest : List Char) : Option (List Segment) :=
      match rest with
      | [] => some [⟨name, arguments?⟩]
      | ':' :: ':' :: more => (segmentsFrom? fuel more).map (⟨name, arguments?⟩ :: ·)
      | _ => none
    let applied (rest : List Char) : Option (List Segment) :=
      (untilClosed ['>'] rest).bind fun (arguments, rest) => after (some arguments) rest
    if name = [] then none
    else
      match chars.dropWhile isWord with
      | '<' :: rest => applied rest
      | ':' :: ':' :: '<' :: rest => applied rest
      | rest => after none rest

/-- The parts of a path, if the text is one; it may begin with a colon pair or with a type in
angle brackets. -/
def segments? (chars : List Char) : Option (List Segment) :=
  let path :=
    match chars with
    | ':' :: ':' :: rest => some rest
    | '<' :: rest =>
      match untilClosed ['>'] rest with
      | some (_, ':' :: ':' :: rest) => some rest
      | _ => none
    | _ => some chars
  path.bind fun path => segmentsFrom? (path.length + 1) path

/-- What follows a name and its arguments. -/
def afterName (chars : List Char) : List Char :=
  match chars.dropWhile isWord with
  | '<' :: rest => ((untilClosed ['>'] rest).map Prod.snd).getD []
  | rest => rest

/-- Whether an argument is a type and not a lifetime, a constant, or a name with a meaning. Letters
before a quote belong to a constant. -/
def isType (argument : List Char) : Bool :=
  match argument with
  | [] => false
  | c :: _ =>
    !(c = '-' || c = '\x7b' || c.isDigit)
      && argument ≠ "true".toList && argument ≠ "false".toList
      && (match argument.dropWhile isWord with
        | '\'' :: _ => false
        | '"' :: _ => false
        | _ => true)
      && (match afterName argument with
        | ':' :: ':' :: _ => true
        | ':' :: _ => false
        | '=' :: _ => false
        | _ => true)

/-- The type inside, if the text is the type `Option` of one. -/
def optionArgument? (type : String) : Option String :=
  match (segments? type.toList).bind List.getLast? with
  | some ⟨name, some arguments⟩ =>
    let argument := firstArgument [] arguments
    if name = "Option".toList ∧ isType argument then some (String.ofList argument) else none
  | _ => none

end TypedSql.TypeText
