import TypedSql.Number.Decimal
import TypedSql.Postgres.Error
/-!
# Settings of the PostgreSQL backend

Where the server is, how many connections may be open, and how long to wait for them and for
statements. Settings come from variables, where numbers are texts, or from a document.

## Main definitions

- `Postgres.Config`: the settings, with defaults for all but the address.
- `Postgres.Config.ofVariables`: the settings that variables spell.
- `Postgres.Config.ofDocument?`, `Postgres.Config.ofList?`: the settings of a document.
-/

namespace TypedSql.Postgres

/-- The settings. -/
structure Config where
  url : String
  maxConnections : UInt32 := 10
  acquireTimeoutSecs : UInt64 := 30
  statementTimeoutSecs? : Option UInt64 := none
deriving DecidableEq

/-- White space of all scripts. -/
def isBlank (c : Char) : Bool :=
  let n := c.toNat
  (0x09 ≤ n && n ≤ 0x0D) || n == 0x20 || n == 0x85 || n == 0xA0 || n == 0x1680
    || (0x2000 ≤ n && n ≤ 0x200A) || n == 0x2028 || n == 0x2029 || n == 0x202F || n == 0x205F
    || n == 0x3000

/-- The text without white space at its ends. -/
def trimmed (s : List Char) : List Char :=
  ((s.dropWhile isBlank).reverse.dropWhile isBlank).reverse

/-- A number of 32 bits. -/
def word32? (n : Nat) : Option UInt32 := if n < UInt32.size then some (.ofNat n) else none

/-- A number of 64 bits. -/
def word64? (n : Nat) : Option UInt64 := if n < UInt64.size then some (.ofNat n) else none

namespace Config

/-- The settings of an address are the defaults. -/
def isDefault (c : Config) : Bool := c == { url := c.url }

/-- The number below a bound in a variable, if it is set. White space around it does not matter. -/
def setting? (lookup : String → Option String) (bound : Nat) (name : String) :
    Except Error (Option Nat) :=
  match lookup name with
  | none => .ok none
  | some text =>
    match Decimal.read bound (trimmed text.toList) with
    | .ok n => .ok (some n)
    | .error _ => .error (.invalidSetting name text)

/-- The settings that variables spell; the first that spells no number is an error. -/
def ofVariables (lookup : String → Option String) : Except Error Config :=
  match (lookup "DATABASE_URL").filter fun url => trimmed url.toList ≠ [] with
  | none => .error .missingUrl
  | some url =>
    match setting? lookup UInt32.size "OXIDE_QUERY_MAX_CONNECTIONS",
        setting? lookup UInt64.size "OXIDE_QUERY_ACQUIRE_TIMEOUT_SECS",
        setting? lookup UInt64.size "OXIDE_QUERY_STATEMENT_TIMEOUT_SECS" with
    | .error e, _, _ => .error e
    | _, .error e, _ => .error e
    | _, _, .error e => .error e
    | .ok max?, .ok acquire?, .ok statement? =>
      let c : Config := { url }
      .ok { c with
        maxConnections := (max?.map .ofNat).getD c.maxConnections
        acquireTimeoutSecs := (acquire?.map .ofNat).getD c.acquireTimeoutSecs
        statementTimeoutSecs? := statement?.map .ofNat }

/-- A value in a document. -/
inductive Entry where
  | null
  | text (s : String)
  | number (n : Int)
  | other
deriving DecidableEq

namespace Entry

/-- The value as a text. -/
def text? : Entry → Option String
  | text s => some s
  | _ => none

/-- The value as a natural number of a width. -/
def word? {α : Type} (width? : Nat → Option α) : Entry → Option α
  | number (.ofNat n) => width? n
  | _ => none

/-- The value as one that may be missing. -/
def optional? {α : Type} (read? : Entry → Option α) : Entry → Option (Option α)
  | null => some none
  | e => (read? e).map some

end Entry

/-- The settings of a document with named values: all but the address may be left out, and others
are ignored. -/
def ofDocument? (value? : String → Option Entry) : Option Config := do
  let url ← (← value? "url").text?
  let c : Config := { url }
  let field {α : Type} (name : String) (default : α) (read? : Entry → Option α) : Option α :=
    (value? name).elim (some default) read?
  let maxConnections ← field "max_connections" c.maxConnections (Entry.word? word32?)
  let acquireTimeoutSecs ← field "acquire_timeout_secs" c.acquireTimeoutSecs (Entry.word? word64?)
  let statementTimeoutSecs? ←
    field "statement_timeout_secs" none (Entry.optional? (Entry.word? word64?))
  return { url, maxConnections, acquireTimeoutSecs, statementTimeoutSecs? }

/-- The names of the values of a document. -/
def entryNames : List String :=
  ["url", "max_connections", "acquire_timeout_secs", "statement_timeout_secs"]

/-- The settings of a document that lists its values in order. -/
def ofList? (entries : List Entry) : Option Config :=
  if entries.length ≤ entryNames.length then
    ofDocument? fun name => (entryNames.zip entries).lookup name
  else none

end Config

end TypedSql.Postgres
