import TypedSql.Url.IpAddress
import TypedSql.Url.Percent
/-!
# Hosts of URLs

The host that a URL names: a numeric address, in brackets if it has colons, or a name. Schemes of
the web name hosts of the domain name system; with other schemes a name is just a text.

## Main definitions

- `UrlError`: what can be wrong with a URL.
- `Host.checkText`, `Host.checkDomain`: what is wrong with a host, if anything.
-/

namespace TypedSql

/-- What is wrong with a URL. -/
inductive UrlError where
  | noScheme
  | emptyHost
  | invalidPort
  | invalidDottedAddress
  | invalidGroupAddress
  | invalidHostCharacter
  | invalidDomain
deriving DecidableEq, Repr

/-- The wording of the error. -/
def UrlError.message : UrlError → String
  | noScheme => "relative URL without a base"
  | emptyHost => "empty host"
  | invalidPort => "invalid port number"
  | invalidDottedAddress => "invalid IPv4 address"
  | invalidGroupAddress => "invalid IPv6 address"
  | invalidHostCharacter => "invalid domain character"
  | invalidDomain => "invalid international domain name"

namespace Host

/-- The characters that no host contains, as they mean something else in a URL. -/
def reserved : List Char :=
  ['\x00', '\t', '\n', '\r', ' ', '#', '/', ':', '<', '>', '?', '@', '[', '\\', ']', '^', '|']

/-- Checks a host that begins with a bracket. -/
def checkBracketed (host : List Char) : Except UrlError Unit :=
  if host.getLast? = some ']' ∧ IpAddress.isGroups (host.drop 1).dropLast then .ok ()
  else .error .invalidGroupAddress

/-- Checks a host that is just a text. -/
def checkText (host : List Char) : Except UrlError Unit :=
  if host.head? = some '[' then checkBracketed host
  else if host.any reserved.contains then .error .invalidHostCharacter
  else .ok ()

/-- Whether a domain may contain a character: beyond those of other hosts, controls and the
percent sign are left out. -/
def isOfDomain (c : Char) : Bool :=
  !reserved.contains c && c ≠ '%' && c.toNat ≠ 0x7F && ' '.toNat < c.toNat

/-- Checks a host of the domain name system. Its letter case does not matter, and a domain that
ends in a number is an address. -/
def checkDomain (host : List Char) : Except UrlError Unit :=
  if host.head? = some '[' then checkBracketed host
  else
    match Percent.text host with
    | .error _ => .error .invalidDomain
    | .ok domain =>
      let name := domain.map Char.toLower
      if !domain.all isOfDomain then .error .invalidDomain
      else if IpAddress.endsInNumber name ∧ !IpAddress.isShorthand name then
        .error .invalidDottedAddress
      else .ok ()

end Host

end TypedSql
