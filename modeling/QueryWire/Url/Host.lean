/-
  Hosts of URLs.

  The host of a special scheme is a domain or an address.  The host of any other
  scheme is kept as it is, apart from IPv6 addresses.
-/
import QueryWire.Url.Address
import QueryWire.Url.Domain
import QueryWire.Url.Percent

namespace QueryWire.Url

/-- Why a text is no URL. -/
inductive UrlFault
  | noScheme
  | emptyHost
  | invalidPort
  | invalidIpv4
  | invalidIpv6
  | invalidDomain
  | invalidHostCharacter
  | noPath
deriving DecidableEq

def UrlFault.message : UrlFault → String
  | .noScheme => "relative URL without a base"
  | .emptyHost => "empty host"
  | .invalidPort => "invalid port number"
  | .invalidIpv4 => "invalid IPv4 address"
  | .invalidIpv6 => "invalid IPv6 address"
  | .invalidDomain => "invalid international domain name"
  | .invalidHostCharacter => "invalid domain character"
  | .noPath => "relative URL with a cannot-be-a-base base"

/-! ## Hosts -/

/-- An address in brackets. -/
def bracketedHost (cs : List Char) : Except UrlFault (List Char) :=
  if cs.getLast? = some ']' then
    match ipv6? cs.dropLast with
    | some groups => .ok ('[' :: ipv6Chars groups ++ [']'])
    | none => .error .invalidIpv6
  else .error .invalidIpv6

/-- The host of a URL of a special scheme, as it is written. -/
def specialHost : List Char → Except UrlFault (List Char)
  | '[' :: rest => bracketedHost rest
  | cs =>
    match domain? (percentDecode cs) with
    | none => .error .invalidDomain
    | some domain =>
      if domain.isEmpty then .error .emptyHost
      else if endsInNumber domain then
        match ipv4? domain with
        | some address => .ok (ipv4Chars address)
        | none => .error .invalidIpv4
      else .ok domain

def isForbiddenInHost (c : Char) : Bool :=
  c.toNat == 0 || "\t\n\r #/:<>?@[\\]^|".toList.contains c

/-- The host of a URL of any other scheme. -/
def plainHost : List Char → Except UrlFault (List Char)
  | '[' :: rest => bracketedHost rest
  | cs =>
    if cs.any isForbiddenInHost then .error .invalidHostCharacter
    else .ok (percentEncode isControl cs)

end QueryWire.Url
