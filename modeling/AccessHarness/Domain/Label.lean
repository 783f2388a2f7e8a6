import AccessHarness.Domain.Code
import AccessHarness.Domain.Joiner
import AccessHarness.Domain.Mapping

/-!
# Labels

A label of a domain, as it is written in ASCII and as it reads.  The two differ where the
label holds characters above ASCII: it is then written as `xn--` and its code.

A code stands for a label only if it is the code of a text that a domain would keep as it
is; so each label is written in one way.

Main definition: `Domain.Label.of?`.
-/

namespace AccessHarness.Domain

/-- A label. -/
structure Label where
  /-- As it is written, in ASCII. -/
  written : List Char
  /-- As it reads. -/
  read : List Char
  deriving DecidableEq

/-- Whether a text is ASCII. -/
def isAscii (l : List Char) : Bool := l.all fun c => c.toNat < 128

namespace Label

/-- What the code of a label begins with. -/
def mark : List Char := ['x', 'n', '-', '-']

/-- The most characters of a label that is to be encoded. -/
def longest : Nat := 1000

/-- The most characters of a code. -/
def longestCode : Nat := 2000

/-- Whether a label above ASCII is well made: no mark in front, and joiners where they make
a difference. -/
def isSound (l : List Char) : Bool := !(l.head?.map isMark).getD false && joinersFit l

/-- The label of a code. -/
def ofCode? (l : List Char) : Option Label :=
  if !isAscii l || l.getLast? = some '-' || longestCode < l.length - mark.length then none
  else match decode? (l.drop mark.length) with
    | none => none
    | some cs =>
      if isKept cs && composed cs == cs && isSound cs then some ⟨l, cs⟩ else none

/-- **The label of a text** of characters that a domain keeps. -/
def of? (l : List Char) : Option Label :=
  if mark.isPrefixOf l then ofCode? l
  else if isAscii l then some ⟨l, l⟩
  else if isSound l && l.length ≤ longest then some ⟨mark ++ encode l, l⟩
  else none

end Label

end AccessHarness.Domain
