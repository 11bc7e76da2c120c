import ShowScout.Web.Domain
import ShowScout.Web.Ip

/-!
# Hosts

What a written host stands for: a name, or a numeric address. A name whose last part is a number has
to be a numeric address.
-/

namespace ShowScout.Web

inductive Host where
  /-- A name, in the form in which it is looked up. -/
  | domain (name : List Char)
  /-- Four bytes, as one number. -/
  | ipv4 (address : Nat)
  /-- Eight words. -/
  | ipv6 (words : List Nat)
deriving DecidableEq, Repr

/-- What is wrong with an address. -/
inductive UrlError where
  | notHttp
  | emptyHost
  | invalidDomain
  | invalidIpv4
  | invalidIpv6
  | invalidPort
deriving DecidableEq, Repr

def UrlError.message : UrlError → String
  | .notHttp => "relative URL without a base"
  | .emptyHost => "empty host"
  | .invalidDomain => "invalid international domain name"
  | .invalidIpv4 => "invalid IPv4 address"
  | .invalidIpv6 => "invalid IPv6 address"
  | .invalidPort => "invalid port number"

namespace Host

def toText : Host → List Char
  | domain name => name
  | ipv4 address => ipv4Text address
  | ipv6 words => '[' :: (ipv6Text words ++ [']'])

/-- The host of a name in the form in which it is looked up. -/
def ofName (name : List Char) : Except UrlError Host :=
  if name.isEmpty then .error .emptyHost
  else if endsInNumber name then
    match ipv4? name with
    | some address => .ok (.ipv4 address)
    | none => .error .invalidIpv4
  else .ok (.domain name)

/-- The host that is written between brackets. -/
def ofBracketed (s : List Char) : Except UrlError Host :=
  match if s.getLast? == some ']' then ipv6? s.dropLast else none with
  | some words => .ok (.ipv6 words)
  | none => .error .invalidIpv6

/-- Reads a host. -/
def parse (s : List Char) : Except UrlError Host :=
  match s with
  | '[' :: rest => ofBracketed rest
  | _ =>
    match (textOfBytes? (percentDecode s)).bind asciiDomain? with
    | some name => ofName name
    | none => .error .invalidDomain

end Host

end ShowScout.Web
