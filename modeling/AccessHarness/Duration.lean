/-!
# Durations

A duration is a natural number of nanoseconds.  It is bounded only where a result is
kept: `Duration.longest` is the greatest duration a wait may be scaled to.

`Duration.shown` writes a duration in the largest unit with a non-zero whole part, with
as many decimals as are needed: `120s`, `1.5s`, `1.000001ms`, `0ns`.
-/

namespace AccessHarness

namespace Duration

/-- Nanoseconds in a second. -/
def second : Nat := 1000000000

/-- Nanoseconds in a millisecond. -/
def millisecond : Nat := 1000000

/-- Whole seconds. -/
def ofSeconds (n : Nat) : Nat := n * second

/-- Whole milliseconds. -/
def ofMillis (n : Nat) : Nat := n * millisecond

/-- The whole seconds of a duration. -/
def seconds (d : Nat) : Nat := d / second

/-- What is left after the whole seconds. -/
def subsecond (d : Nat) : Nat := d % second

/-- The whole milliseconds of a duration. -/
def millis (d : Nat) : Nat := d / millisecond

/-- The longest duration: as many seconds as fit 64 bits, and 999999999 ns. -/
def longest : Nat := (UInt64.size - 1) * second + 999999999

/-- The decimals of `part` in a unit of `10 ^ places`, without trailing zeros. -/
def decimals (part places : Nat) : List Char :=
  let digits := Nat.toDigits 10 part
  let padded := List.replicate (places - digits.length) '0' ++ digits
  (padded.reverse.dropWhile (· == '0')).reverse

/-- `d` in a unit of `10 ^ places` nanoseconds. -/
def inUnit (d : Nat) (places : Nat) (unit : String) : String :=
  let whole := Nat.repr (d / Nat.pow 10 places)
  match decimals (d % Nat.pow 10 places) places with
  | [] => whole ++ unit
  | fraction => whole ++ "." ++ String.ofList fraction ++ unit

/-- The text of a duration. -/
def shown (d : Nat) : String :=
  if second ≤ d then inUnit d 9 "s"
  else if millisecond ≤ d then inUnit d 6 "ms"
  else if 1000 ≤ d then inUnit d 3 "\u00b5s"
  else Nat.repr d ++ "ns"

theorem seconds_add_subsecond (d : Nat) :
    ofSeconds (seconds d) + subsecond d = d := by
  simp only [ofSeconds, seconds, subsecond]
  exact Nat.div_add_mod' d second

end Duration

end AccessHarness
