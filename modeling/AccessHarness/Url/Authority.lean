import AccessHarness.Url.Cut

/-!
# Authorities

What stands between the double slash and the path of a URL: credentials before the last
`@`, a host, and a port after the first colon outside brackets.

Main definition: `Url.authority?`.
-/

namespace AccessHarness.Url

/-- The part before the last `@`, if there is one, and the part after it. -/
def splitCredentials (l : List Char) : Option (List Char) × List Char :=
  let after := (l.reverse.takeWhile (· != '@')).reverse
  if after.length = l.length then (none, l)
  else (some (l.take (l.length - after.length - 1)), after)

/-- The host in front of a port: everything up to the first colon outside brackets. -/
def takeHost : Bool → List Char → List Char × List Char
  | _, [] => ([], [])
  | inside, c :: rest =>
    if c = ':' ∧ inside = false then ([], c :: rest)
    else
      let r := takeHost (if c = '[' then true else if c = ']' then false else inside) rest
      (c :: r.1, r.2)

/-- The text of a port; a backslash ends it under every scheme. -/
def takePort (l : List Char) : List Char × List Char :=
  (l.takeWhile (· != '\\'), l.dropWhile (· != '\\'))

/-- Read the digits of a port. -/
def readPort : List Char → Nat → Except UrlFault Nat
  | [], acc => .ok acc
  | c :: rest, acc =>
    if c.isDigit then
      let next := acc * 10 + (c.toNat - 48)
      if next < 65536 then readPort rest next else .error .badPort
    else .error .badPort

/-- The port after its colon; the default one and a missing one are not kept. -/
def port? (scheme : List Char) : List Char → Except UrlFault (Option Nat)
  | ':' :: digits =>
    match readPort digits 0 with
    | .error e => .error e
    | .ok n =>
      if digits.isEmpty || Scheme.defaultPort scheme == some n then .ok none else .ok (some n)
  | _ => .ok none

/-- The parts of an authority. -/
structure Authority where
  username : List Char
  password : Option (List Char)
  host : Host
  port : Option Nat

/-- User name and password; an empty password is none. -/
def credentials (l : List Char) : List Char × Option (List Char) :=
  match cutAt (· == ':') l with
  | (name, none) => (encodeCredential name, none)
  | (name, some []) => (encodeCredential name, none)
  | (name, some p) => (encodeCredential name, some (encodeCredential p))

/-- Whether a host must follow: after credentials that say something, before a port, and
under a scheme with a default port. -/
def needsHost (special : Bool) (username : List Char) (password : Option (List Char))
    (port : List Char) : Bool :=
  special || !username.isEmpty || password.isSome || !port.isEmpty

/-- Host and port after credentials. -/
def hostAndPort (scheme hostChars portChars username : List Char)
    (password : Option (List Char)) : Except UrlFault Authority :=
  let special := Scheme.isSpecial scheme
  if hostChars.isEmpty && needsHost special username password portChars then
    .error .emptyHost
  else
    match (if special then Host.ofChars? hostChars else Host.ofPlainChars? hostChars) with
    | .error e => .error e
    | .ok host =>
      match port? scheme portChars with
      | .error e => .error e
      | .ok port => .ok ⟨username, password, host, port⟩

/-- An authority, from the text between the double slash and the path, with what is left
of that text after the port.  An `@` with nothing on either side is allowed only at the end of a URL. -/
def authority? (scheme : List Char) (atEnd : Bool) (l : List Char) :
    Except UrlFault (Authority × List Char) :=
  let (before, rest) := splitCredentials l
  let (hostChars, afterHost) := takeHost false rest
  let (portChars, left) := takePort afterHost
  let (username, password) := credentials (before.getD [])
  if before = some [] ∧ rest = [] ∧ atEnd = false then .error .emptyHost
  else (hostAndPort scheme hostChars portChars username password).map (·, left)

end AccessHarness.Url
