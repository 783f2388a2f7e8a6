import AccessHarness.Url.Path

/-!
# URLs

A URL as the parts that the harness looks at: scheme, credentials, host, port, path,
query, fragment.  A URL whose path is not hierarchical (`mailto:someone`) keeps it as
one text.

`Url.chars` is the one written form.  The scheme decides two things: whether the
backslash separates segments like the slash, and which port need not be written.
-/

namespace AccessHarness

/-- What a scheme implies. -/
inductive SchemeKind where
  /-- A network scheme with a default port. -/
  | special
  /-- Local files: a host is optional and there is no port. -/
  | file
  /-- Any other scheme. -/
  | plain
  deriving DecidableEq, Repr

namespace Scheme

/-- The port that need not be written. -/
def defaultPort (scheme : List Char) : Option Nat :=
  if scheme = ['h', 't', 't', 'p'] then some 80
  else if scheme = ['h', 't', 't', 'p', 's'] then some 443
  else if scheme = ['w', 's'] then some 80
  else if scheme = ['w', 's', 's'] then some 443
  else if scheme = ['f', 't', 'p'] then some 21
  else none

/-- What a scheme implies. -/
def kind (scheme : List Char) : SchemeKind :=
  if (defaultPort scheme).isSome then .special
  else if scheme = ['f', 'i', 'l', 'e'] then .file
  else .plain

/-- Whether the backslash separates like the slash. -/
def isSpecial (scheme : List Char) : Bool := kind scheme != .plain

end Scheme

/-- The path of a URL. -/
inductive UrlPath where
  /-- Segments, each after a slash; none at all where the path is empty. -/
  | rooted (segments : List (List Char))
  /-- One text that nothing can be resolved against. -/
  | flat (text : List Char)
  deriving DecidableEq, Repr

/-- A parsed URL. -/
structure Url where
  scheme : List Char
  /-- User name and, if one is given, password. -/
  username : List Char
  password : Option (List Char)
  /-- The host; none where the URL has no authority. -/
  host : Option Host
  /-- The port, where it is not the default one of the scheme. -/
  port : Option Nat
  path : UrlPath
  query : Option (List Char)
  fragment : Option (List Char)
  deriving DecidableEq, Repr

namespace Url

/-- The text of a path. -/
def pathChars (u : Url) : List Char :=
  match u.path with
  | .rooted segments => Path.chars segments
  | .flat text => text

/-- User name and password before an `@`, if there are any. -/
def credentialChars (u : Url) : List Char :=
  match u.password with
  | some p => u.username ++ ':' :: p ++ ['@']
  | none => if u.username.isEmpty then [] else u.username ++ ['@']

/-- What stands between the scheme and the path. -/
def authorityChars (u : Url) : List Char :=
  match u.host with
  | some h =>
    '/' :: '/' :: u.credentialChars ++ h.chars ++
      (match u.port with
       | some p => ':' :: Nat.toDigits 10 p
       | none => [])
  | none =>
    match u.path with
    | .rooted ([] :: _ :: _) => ['/', '.']
    | _ => []

/-- The query after its question mark, if there is one. -/
def queryChars (u : Url) : List Char :=
  match u.query with
  | some q => '?' :: q
  | none => []

/-- The URL without its fragment. -/
def charsToQuery (u : Url) : List Char :=
  u.scheme ++ ':' :: u.authorityChars ++ u.pathChars ++ u.queryChars

/-- **The written form.** -/
def chars (u : Url) : List Char :=
  u.charsToQuery ++
    (match u.fragment with
     | some f => '#' :: f
     | none => [])

/-- The written form as a text. -/
def text (u : Url) : String := String.ofList u.chars

/-- The text of the host, where there is one. -/
def hostText? (u : Url) : Option String :=
  match u.host with
  | some h => if h.chars.isEmpty then none else some (String.ofList h.chars)
  | none => none

/-- Whether requests to the URL are encrypted. -/
def isSecure (u : Url) : Bool := u.scheme == ['h', 't', 't', 'p', 's']

/-- Whether requests can be sent to the URL at all. -/
def isWeb (u : Url) : Bool := u.scheme == ['h', 't', 't', 'p'] || u.isSecure

end Url

end AccessHarness
