import TypedSql.Postgres.Error
import TypedSql.Text.Quoted
import TypedSql.Url.Basic
/-!
# Addresses of servers

An address is a URL, which is checked before anything connects to it: the texts in it are texts,
and of the settings in its query the encryption is one of those that there are, the numbers are
numbers, and the numeric address is one.

## Main definitions

- `Postgres.Address.check`: the first thing that is wrong with an address.
- `Postgres.Address.isSocket`: whether an address leads to a socket in the file system.
-/

namespace TypedSql.Postgres.Address

/-- The ways in which a connection can be encrypted. -/
def sslModes : List String := ["disable", "allow", "prefer", "require", "verify-ca", "verify-full"]

/-- Checks a part of the address that is a text. -/
def checkText (part : List Char) : Except DriverError Unit :=
  match Percent.text part with
  | .error e => .error (.configuration e.message)
  | .ok _ => .ok ()

/-- Whether a host is a path. -/
def isPath (host : List Char) : Bool := (Percent.bytes host).head? = some '/'.toUInt8

/-- Checks the host, which is a text if it is a path. -/
def checkHost (host : List Char) : Except DriverError Unit :=
  if isPath host then checkText host else .ok ()

/-- Checks a number below a bound. -/
def checkNumber (bound : Nat) (value : List Char) : Except DriverError Unit :=
  match Decimal.read bound value with
  | .error e => .error (.configuration e.message)
  | .ok _ => .ok ()

/-- Checks a way of encryption, whose letter case does not matter. -/
def checkSslMode (value : String) : Except DriverError Unit :=
  if value.toLower ∈ sslModes then .ok ()
  else
    let unknown := "unknown value " ++ Quoted.text value ++ " for `ssl_mode`"
    .error (.configuration (DriverError.configuration unknown).message)

/-- Checks a numeric address. -/
def checkIpAddress (value : List Char) : Except DriverError Unit :=
  if IpAddress.isDottedQuad value ∨ IpAddress.isGroups value then .ok ()
  else .error (.configuration "invalid IP address syntax")

/-- Checks a setting of the query; most of them can have any value. -/
def checkSetting (setting : List Char × List Char) : Except DriverError Unit :=
  let name := String.ofList setting.1
  if name = "sslmode" ∨ name = "ssl-mode" then checkSslMode (String.ofList setting.2)
  else if name = "statement-cache-capacity" then checkNumber UInt64.size setting.2
  else if name = "port" then checkNumber UInt16.size setting.2
  else if name = "hostaddr" then checkIpAddress setting.2
  else .ok ()

/-- The first thing that is wrong with an address. -/
def check (address : String) : Except DriverError Unit := do
  let url ← (Url.parse address).mapError fun e => .configuration e.message
  checkHost url.host
  checkText url.user
  checkText url.password
  checkText url.pathText
  url.queryPairs.forM checkSetting

/-- Whether an address leads to a socket in the file system: a host in it, or in its query, is a
path. -/
def isSocket (address : String) : Bool :=
  match Url.parse address with
  | .error _ => false
  | .ok url =>
    isPath url.host || url.queryPairs.any fun (name, value) =>
      String.ofList name = "host" && value.head? = some '/'

end TypedSql.Postgres.Address
