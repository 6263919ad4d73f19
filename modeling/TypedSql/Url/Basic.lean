import TypedSql.Url.Host
/-!
# URLs

A URL names a place: after its scheme it can have a host, with a user, a password and a port, and
then a path and a query.

## Main definitions

- `Url`: the parts of a URL, as they are written.
- `Url.parse`: the parts of a text, or what is wrong with it.
- `Url.queryPairs`: the named values of the query.

## Design notes

The parts are kept as they are written, so that their bytes can be read with the meaning that each
part has. Of a path only its steps `.` and `..` are resolved.
-/

namespace TypedSql

/-- The parts of a URL, as they are written. Parts that are missing are empty. -/
structure Url where
  user : List Char := []
  password : List Char := []
  host : List Char := []
  port? : Option Nat := none
  path : List (List Char) := []
  query : List Char := []
deriving DecidableEq, Repr

namespace Url

/-- What follows a scheme. -/
inductive SchemeKind where
  /-- A host, after slashes. Backslashes are as good as slashes. -/
  | web
  /-- A path, or a host after two slashes. Backslashes are as good as slashes. -/
  | file
  /-- A path, or a host after two slashes. -/
  | other
deriving DecidableEq, Repr

/-- What follows a scheme in lower case. -/
def SchemeKind.ofScheme (scheme : String) : SchemeKind :=
  if scheme ∈ ["http", "https", "ws", "wss", "ftp"] then .web
  else if scheme = "file" then .file
  else .other

/-- Whether a character separates the steps of a path. -/
def isSlash (kind : SchemeKind) (c : Char) : Bool := c = '/' || (kind ≠ .other && c = '\\')

/-- Whether a character ends a path. -/
def endsPath (c : Char) : Bool := c = '?' || c = '#'

/-- Whether a character ends what stands before a path. -/
def endsAuthority (kind : SchemeKind) (c : Char) : Bool := isSlash kind c || endsPath c

/-- The characters of a text that count: none at its ends up to the space, and no line breaks or
tabs. -/
def significant (s : String) : List Char :=
  let isEdge (c : Char) := decide (c.toNat ≤ ' '.toNat)
  let inner := ((s.toList.dropWhile isEdge).reverse.dropWhile isEdge).reverse
  inner.filter fun c => c ≠ '\t' ∧ c ≠ '\n' ∧ c ≠ '\r'

/-- The scheme, and what follows its colon. -/
def cutScheme? (chars : List Char) : Option (String × List Char) :=
  let isPart (c : Char) := c.isAlphanum || c = '+' || c = '-' || c = '.'
  match chars.head?.any Char.isAlpha, chars.dropWhile isPart with
  | true, ':' :: rest => some (String.ofList ((chars.takeWhile isPart).map Char.toLower), rest)
  | _, _ => none

/-- What stands before the last `@`, if there is one, and after it. -/
def cutUser (authority : List Char) : Option (List Char) × List Char :=
  let after := (authority.reverse.takeWhile (· ≠ '@')).reverse
  match (authority.reverse.dropWhile (· ≠ '@')) with
  | [] => (none, after)
  | _ :: before => (some before.reverse, after)

/-- The host, and what follows it. A host in brackets may contain colons. -/
def cutHost (inBrackets : Bool) : List Char → List Char × List Char
  | [] => ([], [])
  | c :: rest =>
    if c = ':' ∧ !inBrackets then ([], c :: rest)
    else
      let (host, after) := cutHost (c = '[' || (inBrackets && c ≠ ']')) rest
      (c :: host, after)

/-- The port after a host, and what follows it. -/
def cutPort (afterHost : List Char) : Except UrlError (Option Nat × List Char) :=
  match afterHost with
  | ':' :: rest =>
    let digits := rest.takeWhile Char.isDigit
    let after := rest.dropWhile Char.isDigit
    if 65536 ≤ Decimal.value digits ∨ after.head?.any (· ≠ '\\') then .error .invalidPort
    else .ok (if digits = [] then none else some (Decimal.value digits), after)
  | _ => .ok (none, afterHost)

/-- What stands before a path, and the path and what follows it. -/
def parseAuthority (kind : SchemeKind) (text : List Char) : Except UrlError (Url × List Char) := do
  let after := text.dropWhile (!endsAuthority kind ·)
  let (user?, place) := cutUser (text.takeWhile (!endsAuthority kind ·))
  if user? = some [] ∧ place = [] ∧ after ≠ [] then throw .emptyHost
  let credentials := user?.getD []
  let user := credentials.takeWhile (· ≠ ':')
  let password := (credentials.dropWhile (· ≠ ':')).drop 1
  let (host, afterHost) := cutHost false place
  if host = [] ∧ (kind ≠ .other ∨ afterHost ≠ []) then throw .emptyHost
  if kind = .other then Host.checkText host else Host.checkDomain host
  let (port?, rest) ← cutPort afterHost
  if host = [] ∧ (user ≠ [] ∨ password ≠ []) then throw .emptyHost
  return ({ user, password, host, port? }, rest ++ after)

/-- A letter that names a drive, with its mark. -/
def isDrive (step : List Char) : Bool :=
  match step with
  | [letter, mark] => letter.isAlpha && (mark = ':' || mark = '|')
  | _ => false

/-- The host of a file, which may be missing, and its path. A drive is no host. -/
def parseFilePlace (text : List Char) : Except UrlError (Url × List Char) := do
  let host := text.takeWhile (!endsAuthority .file ·)
  if host = [] ∨ isDrive host then return ({}, text)
  Host.checkDomain host
  return ({ host }, text.dropWhile (!endsAuthority .file ·))

/-- A step of a path, with its encoded points as points. -/
def withPoints : List Char → List Char
  | '%' :: '2' :: 'e' :: rest => '.' :: withPoints rest
  | '%' :: '2' :: 'E' :: rest => '.' :: withPoints rest
  | c :: rest => c :: withPoints rest
  | [] => []

/-- Leaves the last step, unless it is the drive of a file. -/
def leaveStep (kind : SchemeKind) (done : List (List Char)) : List (List Char) :=
  match done with
  | [step] => if kind = .file ∧ isDrive step then done else []
  | _ => done.tail

/-- Resolves the steps `.` and `..` after steps that are done, the last one first. Where the path
ends in one of them, an empty step takes its place. -/
def resolve (kind : SchemeKind) (done : List (List Char)) :
    List (List Char) → List (List Char)
  | [] => done.reverse
  | step :: steps =>
    let isLast := steps = []
    let keep (done : List (List Char)) := if isLast then [] :: done else done
    match withPoints step with
    | ['.'] => resolve kind (keep done) steps
    | ['.', '.'] => resolve kind (keep (leaveStep kind done)) steps
    | _ => resolve kind (step :: done) steps

/-- The steps of a path. -/
def parsePath (kind : SchemeKind) (text : List Char) : List (List Char) :=
  let steps := if text.head?.any (isSlash kind) then text.drop 1 else text
  if text = [] then [] else resolve kind [] (steps.splitOnP (isSlash kind))

/-- The query, which starts after a question mark. -/
def parseQuery (afterPath : List Char) : List Char :=
  match afterPath with
  | '?' :: query => query.takeWhile (· ≠ '#')
  | _ => []

/-- The parts of a URL from its text. -/
def parse (text : String) : Except UrlError Url := do
  let some (scheme, rest) := cutScheme? (significant text) | throw .noScheme
  let kind := SchemeKind.ofScheme scheme
  let follows (count : Nat) := ((rest.take count).filter (isSlash kind)).length = count
  let (url, rest) ←
    if kind = .web then parseAuthority kind (rest.dropWhile (isSlash kind))
    else if !follows 2 then pure ({}, rest)
    else if kind = .file then parseFilePlace (rest.drop 2)
    else parseAuthority kind (rest.drop 2)
  let path := rest.takeWhile (!endsPath ·)
  let isOpaque := kind = .other ∧ !follows 1
  return { url with
    path := if isOpaque then [path] else parsePath kind path
    query := parseQuery (rest.dropWhile (!endsPath ·)) }

/-- The path as one text, without the slashes that it starts with. -/
def pathText (url : Url) : List Char := ((['/'].intercalate url.path)).dropWhile (· = '/')

/-- The named values of the query. -/
def queryPairs (url : Url) : List (List Char × List Char) :=
  ((url.query.splitOnP (· = '&')).filter (· ≠ [])).map fun pair =>
    (Percent.formText (pair.takeWhile (· ≠ '=')),
      Percent.formText ((pair.dropWhile (· ≠ '=')).drop 1))

end Url

end TypedSql
