/-!
# Binary floating-point numbers as decimals

A price, or a number inside a document that is passed through, is a 64-bit binary
floating-point number.  Here are its two texts.

* `Binary64.ofDecimal` gives the number for `significand · 10 ^ exponent`.  The
  significand is rounded to a binary number first and then multiplied or divided by a
  power of ten, so a long decimal may end up one place beside the nearest number.
* `Binary64.shortest` gives the fewest digits that read back as the number, and of
  those the nearest.  It works on the exact value `m · 2 ^ q` in natural numbers: the
  decimals that round to it form an interval around it, and the coarsest power of ten
  with a multiple in that interval has one next to the value.
-/

namespace AccessHarness.Decimal

/-- A 64-bit binary floating-point number by its bits. -/
structure Binary64 where
  /-- Sign, exponent and fraction. -/
  bits : UInt64
  deriving DecidableEq

namespace Binary64

/-- Whether the sign bit is set. -/
def isNegative (x : Binary64) : Bool := 0x8000000000000000 ≤ x.bits.toNat

/-- The biased exponent. -/
def biased (x : Binary64) : Nat := x.bits.toNat / 0x10000000000000 % 0x800

/-- The stored fraction. -/
def fraction (x : Binary64) : Nat := x.bits.toNat % 0x10000000000000

/-- Whether the number is neither infinite nor not a number. -/
def isFinite (x : Binary64) : Bool := x.biased != 2047

/-- The significand `m` of the exact value `m · 2 ^ q`. -/
def significand (x : Binary64) : Nat :=
  if x.biased = 0 then x.fraction else x.fraction + 0x10000000000000

/-- The exponent `q` of the exact value `m · 2 ^ q`. -/
def exponent (x : Binary64) : Int := (max x.biased 1 : Nat) - 1075

/-- The number of a machine float. -/
def ofFloat (f : Float) : Binary64 := ⟨f.toBits⟩

/-- The number nearest to a natural number. -/
def ofNat (n : Nat) : Binary64 := ofFloat (Float.ofNat n)

/-- The number with the other sign. -/
def negate (x : Binary64) : Binary64 := ⟨x.bits ^^^ 0x8000000000000000⟩

/-- The number with a sign. -/
def signed (negative : Bool) (x : Binary64) : Binary64 := if negative then x.negate else x

/-- A power of ten up to the 308th. -/
def powerOfTen (n : Nat) : Float := Float.ofScientific 1 false n

/-- `significand · 10 ^ exponent`; `none` when the value is beyond the greatest finite
number. A negative exponent below -308 is taken in two divisions. -/
def ofDecimal (negative : Bool) (significand : Nat) (exponent : Int) : Option Binary64 :=
  let f := Float.ofNat significand
  if significand = 0 then some (signed negative (ofFloat f))
  else if 308 < exponent then none
  else if 0 ≤ exponent then
    let x := ofFloat (f * powerOfTen exponent.toNat)
    if x.isFinite then some (signed negative x) else none
  else if -308 ≤ exponent then
    some (signed negative (ofFloat (f / powerOfTen (-exponent).toNat)))
  else
    let g := f / powerOfTen 308
    if -616 ≤ exponent then
      some (signed negative (ofFloat (g / powerOfTen (-exponent - 308).toNat)))
    else some (signed negative (ofFloat 0))

/-- A multiple of `10 ^ k` beside the value `v / den` that lies between `lo` and `hi`,
as its multiplier: the nearer of the two neighbours, the even one on a tie. -/
def neighbour? (lo v hi den : Nat) (closed : Bool) : Option Nat :=
  let below := v / den
  let above := below + 1
  let inside (n : Nat) : Bool :=
    if closed then lo ≤ n * den && n * den ≤ hi else lo < n * den && n * den < hi
  let gapBelow := v - below * den
  let gapAbove := above * den - v
  match 0 < below && inside below, inside above with
  | true, true =>
    if gapBelow < gapAbove then some below
    else if gapAbove < gapBelow then some above
    else if below % 2 = 0 then some below else some above
  | true, false => some below
  | false, true => some above
  | false, false => none

/-- Search the powers of ten downwards from the greatest that can matter. -/
def searchGrid (lo v hi den : Nat) (closed : Bool) : Nat → Int → Option (Nat × Int)
  | 0, _ => none
  | steps + 1, k =>
    let found :=
      if 0 ≤ k then neighbour? lo v hi (den * Nat.pow 10 k.toNat) closed
      else
        let s := Nat.pow 10 (-k).toNat
        neighbour? (lo * s) (v * s) (hi * s) den closed
    match found with
    | some n => some (n, k)
    | none => searchGrid lo v hi den closed steps (k - 1)

/-- Digits and power of ten of the shortest decimal that reads back as a positive
finite number. -/
def shortest (x : Binary64) : Nat × Int :=
  let m := x.significand
  let q := x.exponent - 2
  let lowGap := if x.fraction = 0 ∧ 1 < x.biased then 1 else 2
  let up := Nat.pow 2 q.toNat
  let den := Nat.pow 2 (-q).toNat
  let k : Int := if 0 ≤ q then (Nat.toDigits 10 (4 * m * up)).length
    else ((Nat.toDigits 10 (4 * m / den)).length : Int)
  match searchGrid ((4 * m - lowGap) * up) (4 * m * up) ((4 * m + 2) * up) den
      (m % 2 = 0) 400 k with
  | some r => r
  | none => (0, 0)

end Binary64

end AccessHarness.Decimal
