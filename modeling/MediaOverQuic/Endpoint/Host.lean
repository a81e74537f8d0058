import MediaOverQuic.Endpoint.DomainName
import MediaOverQuic.Endpoint.Percent

/-!
# Hosts

The host of a URI is read in one of two ways. With a scheme of the web it is a name without regard
to case, or an IPv4 address in any of its forms; with other schemes it is taken as it stands. In
brackets it is an IPv6 address with both. Names outside ASCII are refused.
-/
namespace MediaOverQuic

/-- What is wrong with the host of a URI, or with the number behind it. -/
inductive AuthorityFault
  | emptyHost
  | portNumber
  | ipv4
  | ipv6
  | domainName
  | domainCharacter
  deriving DecidableEq, Repr

namespace AuthorityFault

def text : AuthorityFault → String
  | emptyHost => "empty host"
  | portNumber => "invalid port number"
  | ipv4 => "invalid IPv4 address"
  | ipv6 => "invalid IPv6 address"
  | domainName => "invalid international domain name"
  | domainCharacter => "invalid domain character"

end AuthorityFault

namespace Host

/-- What stands between brackets, as an IPv6 address. -/
def bracketed (inner : List Char) : Except AuthorityFault String :=
  if inner.getLast? = some ']' then
    match Ipv6.parse? inner.dropLast with
    | some groups => .ok ("[" ++ Ipv6.text groups ++ "]")
    | none => .error .ipv6
  else .error .ipv6

/-- The characters that no host has. -/
def forbidden : List Char :=
  [Char.ofNat 0, '\t', '\n', '\r', ' ', '#', '/', ':', '<', '>', '?', '@', '[', '\\', ']', '^', '|']

/-- Reads a host that is taken as it stands. -/
def opaqueName : List Char → Except AuthorityFault String
  | '[' :: inner => bracketed inner
  | cs =>
    if cs.any (· ∈ forbidden) then .error .domainCharacter
    else .ok (String.ofList (Percent.encode [] cs))

/-- Whether a character may be in the name of a domain. -/
def isDomainCharacter (c : Char) : Bool :=
  ' ' < c && c ≤ '~' && c ≠ '%' && c ∉ forbidden

/-- Reads the name of a domain or a numeric address. -/
def domainName : List Char → Except AuthorityFault String
  | '[' :: inner => bracketed inner
  | cs =>
    let name := (Percent.decode cs).map fun b => (Char.ofNat b.toNat).toLower
    if !name.all isDomainCharacter || !DomainName.isValid name then .error .domainName
    else if name = [] then .error .emptyHost
    else if Ipv4.isMeant name then
      match Ipv4.parse? name with
      | some address => .ok (Ipv4.text address)
      | none => .error .ipv4
    else .ok (String.ofList name)

end Host

end MediaOverQuic
