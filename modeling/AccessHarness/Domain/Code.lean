import AccessHarness.Text.Parts

/-!
# The code of a label

A label with characters above ASCII is written in ASCII as the ASCII characters it holds
and a code that says which other characters go where.

The characters above ASCII are inserted in increasing order.  Between two insertions only
a distance is written: a number in variable-length digits of base 36, whose digit places
have thresholds that adapt to the distances so far.

Every loop has a measure.  A number shrinks when its last digit is split off
(`digit_rest_lt`), a distance shrinks when it is divided, and reading a number takes at
least one digit (`readNumber_length`).

Main definitions: `Domain.encode`, `Domain.decode?`.
-/

namespace AccessHarness.Domain

/-- The digit of a number below 36: letters first. -/
def codeDigit (n : Nat) : Char := if n < 26 then Char.ofNat (97 + n) else Char.ofNat (22 + n)

/-- The threshold of a digit place. -/
def threshold (k bias : Nat) : Nat := if k ≤ bias + 1 then 1 else min (k - bias) 26

theorem threshold_pos (k bias : Nat) : 0 < threshold k bias := by
  unfold threshold
  split <;> omega

/-- **What is left of a number without its last digit is smaller.** -/
theorem digit_rest_lt {q t : Nat} (ht : 0 < t) (hq : t ≤ q) : (q - t) / (36 - t) < q :=
  Nat.lt_of_le_of_lt (Nat.div_le_self _ _) (by omega)

/-- A number in variable-length digits, from the digit place `k` on. -/
def codeNumber (bias k q : Nat) : List Char :=
  if h : q < threshold k bias then [codeDigit q]
  else
    codeDigit (threshold k bias + (q - threshold k bias) % (36 - threshold k bias)) ::
      codeNumber bias (k + 36) ((q - threshold k bias) / (36 - threshold k bias))
termination_by q
decreasing_by exact digit_rest_lt (threshold_pos k bias) (by omega)

/-- A distance divided until it is small, with the digit places that takes. -/
def reduceBias (delta k : Nat) : Nat :=
  if 455 < delta then reduceBias (delta / 35) (k + 36) else k + 36 * delta / (delta + 38)
termination_by delta
decreasing_by omega

/-- The bias after a character. -/
def adapt (delta count : Nat) (first : Bool) : Nat :=
  let d := if first then delta / 700 else delta / 2
  reduceBias (d + d / count) 0

/-- State of the encoding of one label: the threshold code point, the pending distance,
the bias, the number of characters handled and the output so far. -/
structure Coding where
  next : Nat
  delta : Nat
  bias : Nat
  handled : Nat
  out : List Char

/-- One character of the label while the code point `m` is inserted. -/
def codeChar (m basic : Nat) (s : Coding) (c : Char) : Coding :=
  if c.toNat < m then { s with delta := s.delta + 1 }
  else if c.toNat = m then
    { s with delta := 0, bias := adapt s.delta (s.handled + 1) (s.handled == basic),
             handled := s.handled + 1, out := s.out ++ codeNumber s.bias 36 s.delta }
  else s

/-- Insert the code points above ASCII in increasing order. -/
def codeAll (label : List Char) (basic : Nat) : List Nat → Coding → Coding
  | [], s => s
  | m :: rest, s =>
    let s := { s with delta := s.delta + (m - s.next) * (s.handled + 1) }
    let s := label.foldl (codeChar m basic) s
    codeAll label basic rest { s with next := m + 1, delta := s.delta + 1 }

/-- The ASCII characters of a label, and after a hyphen the code of the others. -/
def encode (label : List Char) : List Char :=
  let basic := label.filter fun c => c.toNat < 128
  let others := (label.filter fun c => 128 ≤ c.toNat).map Char.toNat
  let points := (others.mergeSort).eraseDups
  let start : Coding :=
    ⟨128, 0, 72, basic.length, if basic.isEmpty then [] else basic ++ ['-']⟩
  (codeAll label basic.length points start).out

/-! ### Reading a code -/

/-- The number that a digit stands for. -/
def digitValue? (c : Char) : Option Nat :=
  if 'a' ≤ c && c ≤ 'z' then some (c.toNat - 97)
  else if c.isDigit then some (c.toNat - 22)
  else none

/-- Distances and weights of digit places stay below this. -/
def codeLimit : Nat := UInt32.size

/-- Add a number in variable-length digits, from the digit place `k` on, to `sum`: the new
sum, and the text after the last digit. -/
def readNumber (bias k weight sum : Nat) : List Char → Option (Nat × List Char)
  | [] => none
  | c :: rest =>
    match digitValue? c with
    | none => none
    | some d =>
      if codeLimit ≤ sum + d * weight then none
      else if d < threshold k bias then some (sum + d * weight, rest)
      else if codeLimit ≤ weight * (36 - threshold k bias) then none
      else readNumber bias (k + 36) (weight * (36 - threshold k bias)) (sum + d * weight) rest

/-- **A number has a digit**: what is left after it is shorter. -/
theorem readNumber_length {bias k weight sum n : Nat} {l rest : List Char}
    (h : readNumber bias k weight sum l = some (n, rest)) : rest.length < l.length := by
  induction l generalizing k weight sum with
  | nil => simp [readNumber] at h
  | cons c l ih =>
    simp only [readNumber] at h
    split at h
    · simp at h
    · split at h
      · simp at h
      · split at h
        · simp only [Option.some.injEq, Prod.mk.injEq] at h
          simp [← h.2]
        · split at h
          · simp at h
          · exact Nat.lt_succ_of_lt (ih h)

/-- Whether a number is a character above ASCII. -/
def isCodePoint (n : Nat) : Bool := n < 0xd800 || (0xe000 ≤ n && n < 0x110000)

/-- Carry out the insertions of a code: the next character is at least `point`, and the
distance counts from the place `place`. -/
def insertAll (point place bias : Nat) (out : List Char) (l : List Char) : Option (List Char) :=
  if l.isEmpty then some out
  else
    match _h : readNumber bias 36 1 place l with
    | none => none
    | some (sum, rest) =>
      let count := out.length + 1
      let next := point + sum / count
      if isCodePoint next then
        let spot := sum % count
        insertAll next (spot + 1) (adapt (sum - place) count (place == 0))
          (out.take spot ++ Char.ofNat next :: out.drop spot) rest
      else none
termination_by l.length
decreasing_by exact readNumber_length _h

/-- **The label that a code stands for**: the characters before the last hyphen, if there
are any, and the insertions after it. -/
def decode? (l : List Char) : Option (List Char) :=
  let code := (l.reverse.takeWhile (· != '-')).reverse
  let basic := l.take (l.length - code.length - 1)
  if basic.isEmpty then insertAll 128 0 72 [] l else insertAll 128 0 72 basic code

end AccessHarness.Domain
