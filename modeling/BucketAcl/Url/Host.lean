/-
Hosts. Where the scheme is one of the special ones a host is a domain
name or an address, and is brought to its one written form; elsewhere
it is a text of its own.
-/
import BucketAcl.Url.Address
import BucketAcl.Url.Domain
import BucketAcl.Url.Percent

namespace BucketAcl.Url

/-- Why a text is no URL. -/
inductive Fault where
  | emptyHost
  | invalidPort
  | invalidIpv4
  | invalidIpv6
  | invalidDomainName
  | invalidDomainCharacter
  | noScheme
  deriving DecidableEq

/-- The wording of the fault. -/
def Fault.message : Fault → String
  | emptyHost => "empty host"
  | invalidPort => "invalid port number"
  | invalidIpv4 => "invalid IPv4 address"
  | invalidIpv6 => "invalid IPv6 address"
  | invalidDomainName => "invalid international domain name"
  | invalidDomainCharacter => "invalid domain character"
  | noScheme => "relative URL without a base"

/-- A host in its written form, by what it is. -/
inductive Host where
  | name (text : String)
  | ipv4 (address : Nat)
  | ipv6 (pieces : List Nat)
  deriving DecidableEq

namespace Host

/-- The host as it stands in a URL. -/
def text : Host → String
  | name t => t
  | ipv4 a => Address.textIpv4 a
  | ipv6 ps => Address.textIpv6 ps

/-- Characters that no domain name holds. -/
def isForbidden (c : Char) : Bool :=
  c < '!' || c == '\x7f' || "#/:<>?@[\\]^|%".toList.contains c

/-- Characters that no host outside the special schemes holds. -/
def isForbiddenElsewhere (c : Char) : Bool :=
  "\x00\t\n\r #/:<>?@[\\]^|".toList.contains c

/-- The address between brackets, if the text begins with one. -/
def bracketed? (cs : List Char) : Option (Except Fault Host) :=
  match cs with
  | '[' :: r =>
    if r.getLast? = some ']' then
      match Address.parseIpv6? r.dropLast with
      | some ps => some (.ok (.ipv6 ps))
      | none => some (.error .invalidIpv6)
    else some (.error .invalidIpv6)
  | _ => none

/-- The host of a domain name that is decoded already, in its written
form: an address where its last part is a number. -/
def ofDomain (cs : List Char) : Except Fault Host :=
  match Domain.writeName? cs with
  | none => .error .invalidDomainName
  | some domain =>
    if domain.any isForbidden then .error .invalidDomainName
    else if domain = [] then .error .emptyHost
    else if Address.endsInNumber domain then
      match Address.parseIpv4? domain with
      | some a => .ok (.ipv4 a)
      | none => .error .invalidIpv4
    else .ok (.name (.ofList domain))

/-- The host of a text under a special scheme. -/
def parse (cs : List Char) : Except Fault Host :=
  match bracketed? cs with
  | some host => host
  | none =>
    match Text.Utf8.strict? (Percent.decode cs) with
    | some domain => ofDomain domain.toList
    | none => .error .invalidDomainName

/-- The host of a text under another scheme. -/
def parseElsewhere (cs : List Char) : Except Fault Host :=
  match bracketed? cs with
  | some host => host
  | none =>
    if cs.any isForbiddenElsewhere then .error .invalidDomainCharacter
    else .ok (.name (.ofList (Percent.encode Percent.isPrintable cs)))

end Host

end BucketAcl.Url
