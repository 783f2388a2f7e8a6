import AccessHarness.Text.Percent
import AccessHarness.Text.Parts

/-!
# Addresses

The two kinds of addresses that stand for a host in a URL: four bytes, kept as one
number, and eight pieces of 16 bits.

* `Ipv4.ofChars?` reads one to four numbers, each decimal, octal or hexadecimal, the last
  one filling what the others leave; `Ipv4.endsInNumber` says which names must be read so.
* `Ipv6.ofChars?` reads groups of hexadecimal digits around at most one double colon.
* `Ipv4.chars` and `Ipv6.chars` are the written forms.
-/

namespace AccessHarness

namespace Ipv4

/-- Read digits of a radix up to 16. -/
def readRadix (radix : Nat) : List Char → Nat → Option Nat
  | [], acc => some acc
  | c :: rest, acc =>
    match Text.Percent.hexValue? c with
    | some d => if d < radix then readRadix radix rest (acc * radix + d) else none
    | none => none

/-- A part of an address: decimal, octal after `0`, hexadecimal after `0x`. -/
def part? : List Char → Option Nat
  | [] => none
  | '0' :: 'x' :: rest => readRadix 16 rest 0
  | '0' :: 'X' :: rest => readRadix 16 rest 0
  | '0' :: c :: rest => readRadix 8 (c :: rest) 0
  | l => readRadix 10 l 0

/-- The parts of a name, without the empty one after a final dot. -/
def parts (l : List Char) : List (List Char) :=
  let ps := Text.parts (· == '.') l
  if ps.getLast? = some [] then ps.dropLast else ps

/-- Whether the last label is a number, so that the name must be an address. -/
def endsInNumber (l : List Char) : Bool :=
  match (parts l).getLast? with
  | none => false
  | some last => (!last.isEmpty && last.all Char.isDigit) || (part? last).isSome

/-- The parts before the last, each a byte, from the most significant. -/
def weigh : List Nat → Nat → Option Nat
  | [], _ => some 0
  | n :: rest, place =>
    if 255 < n then none else (weigh rest (place - 1)).map (n * Nat.pow 256 place + ·)

/-- A four-byte address with one to four parts; the last part fills what the others
leave. -/
def ofChars? (l : List Char) : Option Nat :=
  match (parts l).mapM part? with
  | none => none
  | some ns =>
    match ns.getLast? with
    | none => none
    | some last =>
      if 4 < ns.length then none
      else if Nat.pow 256 (5 - ns.length) ≤ last then none
      else (weigh ns.dropLast 3).map (· + last)

/-- Four decimal numbers. -/
def chars (n : Nat) : List Char :=
  Nat.toDigits 10 (n / 16777216) ++ '.' :: Nat.toDigits 10 (n / 65536 % 256) ++
    '.' :: Nat.toDigits 10 (n / 256 % 256) ++ '.' :: Nat.toDigits 10 (n % 256)

end Ipv4

namespace Ipv6

/-- One group: up to four hexadecimal digits. -/
def group? (l : List Char) : Option Nat :=
  if l.isEmpty || 4 < l.length then none else Ipv4.readRadix 16 l 0

/-- A decimal byte without a superfluous zero. -/
def byte? (l : List Char) : Option Nat :=
  match l with
  | [] => none
  | ['0'] => some 0
  | '0' :: _ => none
  | _ => (Ipv4.readRadix 10 l 0).bind fun n => if n ≤ 255 then some n else none

/-- The last two pieces written as a four-byte address. -/
def embedded? (l : List Char) : Option (List Nat) :=
  match (Text.parts (· == '.') l).mapM byte? with
  | some [a, b, c, d] => some [a * 256 + b, c * 256 + d]
  | _ => none

/-- Groups separated by colons; `final` allows a four-byte address at the end. -/
def groups? (final : Bool) : List (List Char) → Option (List Nat)
  | [] => some []
  | [last] =>
    if final && last.contains '.' then embedded? last else (group? last).map fun n => [n]
  | g :: rest =>
    match group? g with
    | none => none
    | some n => (groups? final rest).map (n :: ·)

/-- A side of the double colon; nothing stands for no group. -/
def side? (final : Bool) (l : List Char) : Option (List Nat) :=
  if l.isEmpty then some [] else groups? final (Text.parts (· == ':') l)

/-- Cut at the first double colon. -/
def splitDouble : List Char → Option (List Char × List Char)
  | ':' :: ':' :: rest => some ([], rest)
  | c :: rest => (splitDouble rest).map fun r => (c :: r.1, r.2)
  | [] => none

/-- Eight pieces, or fewer around one double colon that stands for the rest. -/
def ofChars? (l : List Char) : Option (List Nat) :=
  match splitDouble l with
  | none =>
    match groups? true (Text.parts (· == ':') l) with
    | some ps => if ps.length = 8 then some ps else none
    | none => none
  | some (left, right) =>
    match side? false left, side? true right with
    | some ls, some rs =>
      if ls.length + rs.length ≤ 7 then
        some (ls ++ List.replicate (8 - ls.length - rs.length) 0 ++ rs)
      else none
    | _, _ => none

/-- The length of the run of zeros at the front. -/
def zeros (l : List Nat) : Nat := (l.takeWhile (· == 0)).length

/-- Start and length of the first longest run of at least two zeros. -/
def longestRun (l : List Nat) : Option (Nat × Nat) :=
  (List.range l.length).foldl (fun best i =>
    let n := zeros (l.drop i)
    match best with
    | some (_, m) => if m < n then some (i, n) else best
    | none => if 2 ≤ n then some (i, n) else none) none

/-- Groups in hexadecimal, separated by colons. -/
def joinGroups (l : List Nat) : List Char := Text.join ':' (l.map (Nat.toDigits 16))

/-- The address with its longest run of zeros left out. -/
def chars (l : List Nat) : List Char :=
  match longestRun l with
  | none => joinGroups l
  | some (i, n) => joinGroups (l.take i) ++ ':' :: ':' :: joinGroups (l.drop (i + n))

end Ipv6

end AccessHarness
