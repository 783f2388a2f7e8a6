/-!
# Bounded unsigned numbers

How a number in a setting is read: an optional `+`, then ASCII digits, the value below a
bound.  A character that is no digit is reported where it stands before the bound is
passed, an overflow where the digits so far already pass it.
-/

namespace AccessHarness.Decimal

/-- Why a text is no number below the bound. -/
inductive NumberFault
  /-- There is nothing to read. -/
  | empty
  /-- A character is no digit. -/
  | digit
  /-- The value is too great. -/
  | range
  deriving DecidableEq, Repr

/-- The wording of a fault. -/
def NumberFault.message : NumberFault → String
  | .empty => "cannot parse integer from empty string"
  | .digit => "invalid digit found in string"
  | .range => "number too large to fit in target type"

/-- Read digits after the value `acc`; every value stays below `bound`. -/
def readDigits (bound : Nat) : List Char → Nat → Except NumberFault Nat
  | [], acc => .ok acc
  | c :: rest, acc =>
    if c.isDigit then
      let next := acc * 10 + (c.toNat - 48)
      if next < bound then readDigits bound rest next else .error .range
    else .error .digit

/-- Read a number below `bound`. -/
def readUnsigned (bound : Nat) (s : String) : Except NumberFault Nat :=
  match s.toList with
  | [] => .error .empty
  | ['+'] => .error .digit
  | '+' :: rest => readDigits bound rest 0
  | digits => readDigits bound digits 0

end AccessHarness.Decimal
