import AccessHarness.Url.Host

/-!
# Paths

The hierarchical path of a URL is its list of segments; `"/a//b/"` is `a`, empty, `b`,
empty.  A path is read segment by segment on top of the segments of a base:

* a segment `.`, also written `%2e`, is dropped, and a segment `..` in any spelling
  takes the segment before it along, unless that one names a drive;
* where such a segment is the last, the path ends in a slash, so an empty segment
  stands there;
* any other segment is kept, with the characters that a path may not hold
  percent-encoded.

### What is load-bearing

Reading goes through `Path.walk` on the *list of raw segments*, never over characters:
that a segment which is neither of the two dot forms is kept as it is (`walk_keep`) is
then one step of one recursion, and it is exactly the dot forms that make a written
name and the segment it becomes differ.
-/

namespace AccessHarness.Path

/-- Characters a path segment holds as they are. -/
def isPlain (c : Char) : Bool :=
  0x20 < c.toNat && c.toNat < 0x7f && !"\"<>`#?\x7b\x7d".toList.contains c

/-- A character as a path holds it. -/
def encodeChar (plain : Char → Bool) (c : Char) : List Char :=
  if plain c then [c] else (String.utf8EncodeChar c).flatMap Text.Percent.escapeByte

/-- A segment as a path holds it. -/
def encodeSegment (l : List Char) : List Char := l.flatMap (encodeChar isPlain)

/-- The dots of a segment, with `%2e` read as a dot; other characters end the count. -/
def dots : List Char → Option Nat
  | [] => some 0
  | '.' :: rest => (dots rest).map (· + 1)
  | '%' :: '2' :: 'e' :: rest => (dots rest).map (· + 1)
  | '%' :: '2' :: 'E' :: rest => (dots rest).map (· + 1)
  | _ => none

/-- Whether a segment stands for the directory it is in. -/
def isHere (l : List Char) : Bool := dots l == some 1

/-- Whether a segment stands for the directory above. -/
def isUp (l : List Char) : Bool := dots l == some 2

/-- Whether a segment is the letter of a drive, with its colon or the bar that may stand
for it. -/
def isDrive (l : List Char) : Bool :=
  match l with
  | [c, d] => c.isAlpha && (d == ':' || d == '|')
  | _ => false

/-- Whether a text begins with the letter of a drive, and nothing or a slash follows. -/
def startsWithDrive (l : List Char) : Bool :=
  isDrive (l.takeWhile fun c => c != '/' && c != '\\')

/-- The letter of a drive with its colon. -/
def withColon (l : List Char) : List Char :=
  match l with
  | [c, '|'] => if c.isAlpha then [c, ':'] else l
  | _ => l

/-- One directory up, the segments last first: not above a drive. -/
def leave : List (List Char) → List (List Char)
  | [] => []
  | seg :: above => if startsWithDrive seg then seg :: above else above

/-- Read raw segments on top of `above`, the segments so far, last first. -/
def walk : List (List Char) → List (List Char) → List (List Char)
  | above, [] => above.reverse
  | above, [last] =>
    if isUp last then ([] :: leave above).reverse
    else if isHere last then ([] :: above).reverse
    else (encodeSegment last :: above).reverse
  | above, seg :: rest =>
    if isUp seg then walk (leave above) rest
    else if isHere seg then walk above rest
    else walk (encodeSegment seg :: above) rest

/-- Whether a character separates segments: the slash, and the backslash under a scheme
with a default port. -/
def isSeparator (special : Bool) (c : Char) : Bool := c == '/' || (special && c == '\\')

/-- The segments of a text on top of the segments of a directory. -/
def under (special : Bool) (directory : List (List Char)) (text : List Char) :
    List (List Char) :=
  walk directory.reverse (Text.parts (isSeparator special) text)

/-- The text of a path: every segment after a slash. -/
def chars (segments : List (List Char)) : List Char := segments.flatMap ('/' :: ·)

@[simp] theorem chars_nil : chars [] = [] := rfl

/-- **A segment that is no dot form is kept**, encoded, below what is above it. -/
theorem walk_keep {seg : List Char} {above rest : List (List Char)} (hup : isUp seg = false)
    (hhere : isHere seg = false) :
    walk above (seg :: rest) = walk (encodeSegment seg :: above) rest := by
  cases rest with
  | nil => simp [walk, hup, hhere]
  | cons s r => simp [walk, hup, hhere]

end AccessHarness.Path
