import AccessHarness.Url.Address
import AccessHarness.Domain.Ascii

/-!
# Hosts

The host of a URL: a domain name, an address of four bytes, or an address of eight
16-bit pieces in brackets.  A host is read in one of two ways.

* Under a scheme with a default port the text is percent-decoded and written in ASCII as
  a domain (`Domain.toAscii?`), and a name whose last label is a number must be a four-byte
  address (`Host.ofChars?`).
* Under any other scheme it is kept as written, except that controls and characters
  outside ASCII are percent-encoded (`Host.ofPlainChars?`).

Main definitions: `UrlFault`, `Host`, `Host.chars`, `Host.ofChars?`.
-/

namespace AccessHarness

/-- Why a text is no URL. -/
inductive UrlFault where
  /-- A host is required and missing. -/
  | emptyHost
  /-- The host name cannot be made an ASCII domain. -/
  | badDomain
  /-- A character that no host may hold. -/
  | badHostCharacter
  /-- The port is no number below 65536. -/
  | badPort
  /-- The last label is a number, but the host is no four-byte address. -/
  | badIpv4
  /-- The text in brackets is no address. -/
  | badIpv6
  /-- There is no scheme and nothing to resolve against. -/
  | relativeWithoutBase
  /-- The base has no hierarchical path to resolve against. -/
  | relativeWithFlatBase
  deriving DecidableEq, Repr

/-- The wording of a fault. -/
def UrlFault.message : UrlFault → String
  | .emptyHost => "empty host"
  | .badDomain => "invalid international domain name"
  | .badHostCharacter => "invalid domain character"
  | .badPort => "invalid port number"
  | .badIpv4 => "invalid IPv4 address"
  | .badIpv6 => "invalid IPv6 address"
  | .relativeWithoutBase => "relative URL without a base"
  | .relativeWithFlatBase => "relative URL with a cannot-be-a-base base"

/-- The host of a URL. -/
inductive Host where
  /-- A name; the empty name where a scheme allows a URL without host. -/
  | domain (name : List Char)
  /-- Four bytes, as one number. -/
  | ipv4 (address : Nat)
  /-- Eight pieces of 16 bits. -/
  | ipv6 (pieces : List Nat)
  deriving DecidableEq, Repr

namespace Host

/-- The text of a host. -/
def chars : Host → List Char
  | .domain name => name
  | .ipv4 n => Ipv4.chars n
  | .ipv6 ps => '[' :: Ipv6.chars ps ++ [']']

/-- A host in brackets, if the text begins with one. -/
def bracketed? : List Char → Option (Except UrlFault Host)
  | '[' :: rest =>
    if rest.getLast? = some ']' then
      match Ipv6.ofChars? rest.dropLast with
      | some ps => some (.ok (.ipv6 ps))
      | none => some (.error .badIpv6)
    else some (.error .badIpv6)
  | _ => none

/-- The host of a URL whose scheme has a default port. -/
def ofChars? (l : List Char) : Except UrlFault Host :=
  match bracketed? l with
  | some r => r
  | none =>
    match Domain.toAscii? l with
    | none => .error .badDomain
    | some [] => .error .emptyHost
    | some name =>
      if Ipv4.endsInNumber name then
        match Ipv4.ofChars? name with
        | some n => if n < UInt32.size then .ok (.ipv4 n) else .error .badIpv4
        | none => .error .badIpv4
      else .ok (.domain name)

/-- Characters that no host may hold, whatever the scheme. -/
def isForbidden (c : Char) : Bool := c.toNat == 0 || " #/:<>?@[\\]^|".toList.contains c

/-- The host of a URL with any other scheme. -/
def ofPlainChars? (l : List Char) : Except UrlFault Host :=
  match bracketed? l with
  | some r => r
  | none =>
    if l.any isForbidden then .error .badHostCharacter
    else .ok (.domain (l.flatMap fun c =>
      if c.toNat < 0x20 || 0x7f ≤ c.toNat then
        (String.utf8EncodeChar c).flatMap Text.Percent.escapeByte
      else [c]))

end Host

end AccessHarness
