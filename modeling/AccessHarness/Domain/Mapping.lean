import AccessHarness.Domain.Marks
import AccessHarness.Domain.Mapping.Ideographs
import AccessHarness.Domain.Mapping.Letters
import AccessHarness.Domain.Mapping.Refused
import AccessHarness.Domain.Mapping.Runs
import AccessHarness.Domain.Mapping.Words

/-!
# The characters of a domain

What becomes of a character in a domain: it is kept, replaced by others, dropped, or
refused.  Letters become small, forms of a letter become the letter, signs that stand for
a word are written out; what cannot be told apart is then written in one way.

ASCII needs no table: capital letters become small, and all else is kept.

Main definitions: `Domain.Fate.of`, `Domain.mapped?`.
-/

namespace AccessHarness.Domain

/-- The entry of a code point in rows of consecutive entries. -/
def inRows? {α : Type} (rows : List (Nat × List α)) (n : Nat) : Option α :=
  rows.findSome? fun r => if r.1 ≤ n then r.2[n - r.1]? else none

/-- The replacement of a code point in runs: `image n` of the replacement for the place `n`
in a run. -/
def inRuns? (place : Nat → Option Nat) (rows : List (Nat × Nat × Nat)) (n : Nat) : Option Nat :=
  rows.findSome? fun r =>
    if r.1 ≤ n && n ≤ r.2.1 then (place (n - r.1)).map (r.2.2 + ·) else none

/-- The one code point that replaces another. -/
def replacement? (n : Nat) : Option Nat :=
  inRuns? some runs n
    <|> inRuns? (fun i => if i % 2 = 0 then some i else none) alternatingRuns n
    <|> inRuns? (fun _ => some 0) sharedRuns n
    <|> inRows? letterRows n
    <|> inRows? ideographRows n

/-- What becomes of a character in a domain. -/
inductive Fate where
  | kept
  | replaced (l : List Char)
  | dropped
  | refused
  deriving DecidableEq

namespace Fate

/-- **What becomes of a character.** -/
def of (c : Char) : Fate :=
  if c.toNat < 128 then (if c.isUpper then .replaced [c.toLower] else .kept)
  else match replacement? c.toNat with
    | some n => .replaced [Char.ofNat n]
    | none =>
      match inRows? wordRows c.toNat with
      | some ns => .replaced (ns.map Char.ofNat)
      | none =>
        if within ignoredRanges c then .dropped
        else if within refusedRanges c then .refused
        else .kept

end Fate

/-- The characters of a text as a domain has them, unless one is refused. -/
def mapped? : List Char → Option (List Char)
  | [] => some []
  | c :: rest =>
    match Fate.of c with
    | .kept => (mapped? rest).map (c :: ·)
    | .replaced l => (mapped? rest).map (l ++ ·)
    | .dropped => mapped? rest
    | .refused => none

/-- Whether a domain keeps every character of a text. -/
def isKept (l : List Char) : Bool := l.all fun c => Fate.of c == .kept

end AccessHarness.Domain
