import AccessHarness.Url.Basic

/-!
# The text of a URL, cut

A text is cut once and never scanned twice:

    scheme ":" main [ "?" query ] [ "#" fragment ]

Blanks and controls at the ends are dropped first, tabs and line ends everywhere.  Each part
is then encoded by a rule of its own: which characters stand for themselves.  How `main` is
read depends on the slashes at its front (`Url.lead`).
-/

namespace AccessHarness.Url

/-- Drop blanks and controls from the ends, tabs and line ends everywhere. -/
def clean (l : List Char) : List Char :=
  let edge (c : Char) : Bool := c.toNat ≤ 0x20
  let trimmed := ((l.dropWhile edge).reverse.dropWhile edge).reverse
  trimmed.filter fun c => c != '\t' && c != '\n' && c != '\r'

/-- Cut at the first element that satisfies `p`; the element belongs to neither part. -/
def cutAt (p : Char → Bool) (l : List Char) : List Char × Option (List Char) :=
  match l.dropWhile fun c => !p c with
  | [] => (l, none)
  | _ :: rest => (l.takeWhile fun c => !p c, some rest)

/-- A text cut into its main part, its query and its fragment, not yet encoded. -/
structure Cut where
  main : List Char
  query : Option (List Char)
  fragment : Option (List Char)

/-- Cut off the fragment, then the query. -/
def cut (l : List Char) : Cut :=
  let (front, fragment) := cutAt (· == '#') l
  let (main, query) := cutAt (· == '?') front
  ⟨main, query, fragment⟩

/-- Characters a query holds as they are; an apostrophe only where the scheme has no
default port. -/
def isQueryPlain (special : Bool) (c : Char) : Bool :=
  0x20 < c.toNat && c.toNat < 0x7f && !"\"#<>".toList.contains c && !(special && c == '\'')

/-- A query as a URL holds it. -/
def encodeQuery (special : Bool) (l : List Char) : List Char :=
  l.flatMap (Path.encodeChar (isQueryPlain special))

/-- Characters a fragment holds as they are. -/
def isFragmentPlain (c : Char) : Bool :=
  0x20 < c.toNat && c.toNat < 0x7f && !"\"<>`".toList.contains c

/-- A fragment as a URL holds it. -/
def encodeFragment (l : List Char) : List Char := l.flatMap (Path.encodeChar isFragmentPlain)

/-- Characters of a user name or password that stand for themselves. -/
def isCredentialPlain (c : Char) : Bool :=
  Path.isPlain c && !"/:;=@[\\]^|".toList.contains c

/-- A user name or password as a URL holds it. -/
def encodeCredential (l : List Char) : List Char :=
  l.flatMap (Path.encodeChar isCredentialPlain)

/-- Characters of a flat path that stand for themselves. -/
def isFlatPlain (c : Char) : Bool := 0x20 ≤ c.toNat && c.toNat < 0x7f

/-- A flat path as a URL holds it. -/
def encodeFlat (l : List Char) : List Char := l.flatMap (Path.encodeChar isFlatPlain)

/-- The scheme in front, lower-cased, and what follows its colon. -/
def splitScheme (l : List Char) : Option (List Char × List Char) :=
  match l with
  | c :: _ =>
    if c.isAlpha then
      let inScheme (c : Char) : Bool := c.isAlphanum || c == '+' || c == '-' || c == '.'
      match l.dropWhile inScheme with
      | ':' :: rest => some ((l.takeWhile inScheme).map Char.toLower, rest)
      | _ => none
    else none
  | [] => none

/-- Whether a character is a slash of either kind. -/
def isSlash (c : Char) : Bool := c == '/' || c == '\\'

/-- How the text of a reference begins. -/
inductive Lead where
  /-- There is no text. -/
  | nothing
  /-- With a segment. -/
  | segment
  /-- With one slash, and the text after it. -/
  | slash (rest : List Char)
  /-- With two slashes, and the text after them. -/
  | slashes (rest : List Char)

/-- How a text begins. -/
def lead : List Char → Lead
  | [] => .nothing
  | [a] => if isSlash a then .slash [] else .segment
  | a :: b :: rest =>
    if !isSlash a then .segment else if isSlash b then .slashes rest else .slash (b :: rest)

end AccessHarness.Url
