import AccessHarness.Domain.Composed.Classes
import AccessHarness.Domain.Composed.Letters

/-!
# Composed text

A letter with marks can be written as one character or as several, and marks that do not
touch can be written in any order.  A text is composed when the marks after each letter are
in the order of their classes, and as many of them as possible are part of the letter.

A text is composed in three steps: its characters are taken apart (`apart`), marks are put
in order (`inOrder`), letters take up marks again (`takeUp`).  A mark is taken up unless
another one of at least its class stands in between, for then the two would change places.

Only the characters that a domain keeps are covered.

Main definition: `Domain.composed`.
-/

namespace AccessHarness.Domain

/-- The class of a mark; zero for all else. -/
def markClass (c : Char) : Nat :=
  if c.toNat < 0x300 then 0
  else (classRanges.findSome? fun r =>
    if r.1 ≤ c.toNat && c.toNat ≤ r.2.1 then some r.2.2 else none).getD 0

/-! ### Syllables of Hangul

A syllable is a lead, a vowel and perhaps a tail; its place among the syllables is a number
with these as its digits. -/

/-- The number of vowels. -/
def vowelCount : Nat := 21

/-- The number of tails, with none as one of them. -/
def tailCount : Nat := 28

/-- The parts of a syllable. -/
def syllableParts? (c : Char) : Option (List Char) :=
  if 0xac00 ≤ c.toNat && c.toNat ≤ 0xd7a3 then
    let place := c.toNat - 0xac00
    let tail := place % tailCount
    let opened := [Char.ofNat (0x1100 + place / tailCount / vowelCount),
      Char.ofNat (0x1161 + place / tailCount % vowelCount)]
    some (if tail = 0 then opened else opened ++ [Char.ofNat (0x11a7 + tail)])
  else none

/-- A lead and a vowel, or an open syllable and a tail, as a syllable. -/
def syllable? (a b : Char) : Option Char :=
  if 0x1100 ≤ a.toNat && a.toNat < 0x1113 && 0x1161 ≤ b.toNat && b.toNat < 0x1176 then
    some (Char.ofNat
      (0xac00 + ((a.toNat - 0x1100) * vowelCount + (b.toNat - 0x1161)) * tailCount))
  else if 0xac00 ≤ a.toNat && a.toNat ≤ 0xd7a3 && (a.toNat - 0xac00) % tailCount == 0
      && 0x11a7 < b.toNat && b.toNat < 0x11a7 + tailCount then
    some (Char.ofNat (a.toNat + (b.toNat - 0x11a7)))
  else none

/-! ### The three steps -/

/-- The characters that a character is made of. -/
def partsOf (c : Char) : List Char :=
  if c.toNat < 128 then [c]
  else match syllableParts? c with
    | some l => l
    | none =>
      match composedLetters.lookup c.toNat with
      | some ns => ns.map Char.ofNat
      | none => [c]

/-- Take every character apart. -/
def apart (l : List Char) : List Char := l.flatMap partsOf

/-- Put a character in front of a text in order; a mark moves behind the marks of lower
classes. -/
def putInOrder (c : Char) : List Char → List Char
  | [] => [c]
  | d :: rest =>
    if 0 < markClass d && markClass d < markClass c then d :: putInOrder c rest
    else c :: d :: rest

/-- Put the marks after each letter in the order of their classes; marks of one class keep
their order. -/
def inOrder (l : List Char) : List Char := l.foldr putInOrder []

/-- The character that a letter and a mark make. -/
def taken? (a b : Char) : Option Char :=
  match syllable? a b with
  | some c => some c
  | none =>
    let whole := (partsOf a ++ [b]).map Char.toNat
    (composedLetters.find? fun r => r.2 == whole).map fun r => Char.ofNat r.1

/-- A letter takes up marks: `passed` holds the marks it could not take, last first. -/
def takeUpFrom (letter : Char) (passed : List Char) : List Char → List Char
  | [] => letter :: passed.reverse
  | c :: rest =>
    let blocked := match passed with
      | [] => false
      | last :: _ => markClass c ≤ markClass last
    match (if blocked then none else taken? letter c) with
    | some whole => takeUpFrom whole passed rest
    | none =>
      if markClass c = 0 then letter :: passed.reverse ++ takeUpFrom c [] rest
      else takeUpFrom letter (c :: passed) rest

/-- Letters take up the marks that follow them. -/
def takeUp : List Char → List Char
  | [] => []
  | c :: rest => if markClass c = 0 then takeUpFrom c [] rest else c :: takeUp rest

/-- **A text composed.** -/
def composed (l : List Char) : List Char :=
  if l.all fun c => c.toNat < 128 then l else takeUp (inOrder (apart l))

end AccessHarness.Domain
