/-!
# Percent-encoding of names

A name becomes part of a path or a query by writing every byte of its UTF-8 form that
is not *unreserved* (ASCII letter, digit, `-`, `_`, `.`, `~`) as `%` and two upper-case
hexadecimal digits.  `decode` reads the form back, byte by byte, and leaves alone a `%`
that no two hexadecimal digits follow.

Main statement: `decodeBytes_encodeBytes`, an encoded name decodes to its bytes.
-/

namespace AccessHarness.Text.Percent

/-- The bytes of a text's UTF-8 form. -/
def utf8 (l : List Char) : List UInt8 := l.flatMap String.utf8EncodeChar

/-- Whether a character may stand for itself. -/
def isUnreserved (c : Char) : Bool :=
  c.isAlphanum || c == '-' || c == '_' || c == '.' || c == '~'

/-- One upper-case hexadecimal digit. -/
def upperHex (n : Nat) : Char := if n < 10 then Char.ofNat (48 + n) else Char.ofNat (55 + n)

/-- A byte as `%` and two digits. -/
def escapeByte (b : UInt8) : List Char :=
  ['%', upperHex (b.toNat / 16), upperHex (b.toNat % 16)]

/-- The encoded form of one byte. -/
def encodeByte (b : UInt8) : List Char :=
  let c := Char.ofNat b.toNat
  if b.toNat < 128 && isUnreserved c then [c] else escapeByte b

/-- The encoded form of a list of bytes. -/
def encodeBytes (bs : List UInt8) : List Char := bs.flatMap encodeByte

/-- The encoded form of a name. -/
def encode (s : String) : String := String.ofList (encodeBytes (utf8 s.toList))

/-- The value of a hexadecimal digit of either case. -/
def hexValue? (c : Char) : Option Nat :=
  let n := c.toNat
  if 48 ≤ n && n ≤ 57 then some (n - 48)
  else if 65 ≤ n && n ≤ 70 then some (n - 55)
  else if 97 ≤ n && n ≤ 102 then some (n - 87)
  else none

/-- The bytes an encoded text stands for. -/
def decodeBytes : List Char → List UInt8
  | [] => []
  | '%' :: a :: b :: rest =>
    match hexValue? a, hexValue? b with
    | some x, some y => UInt8.ofNat (16 * x + y) :: decodeBytes rest
    | _, _ => String.utf8EncodeChar '%' ++ decodeBytes (a :: b :: rest)
  | c :: rest => String.utf8EncodeChar c ++ decodeBytes rest

/-- Two upper-case digits read back as the byte they were written for. -/
theorem hexValue?_upperHex : ∀ n : Nat, n < 16 → hexValue? (upperHex n) = some n
  | 0, _ | 1, _ | 2, _ | 3, _ | 4, _ | 5, _ | 6, _ | 7, _
  | 8, _ | 9, _ | 10, _ | 11, _ | 12, _ | 13, _ | 14, _ | 15, _ => by decide
  | _ + 16, h => absurd h (by omega)

theorem decodeBytes_escapeByte (b : UInt8) (rest : List Char) :
    decodeBytes (escapeByte b ++ rest) = b :: decodeBytes rest := by
  have hb : b.toNat < 256 := b.toNat_lt
  simp only [escapeByte, List.cons_append, List.nil_append, decodeBytes,
    hexValue?_upperHex _ (show b.toNat / 16 < 16 by omega),
    hexValue?_upperHex _ (show b.toNat % 16 < 16 by omega), List.cons.injEq, and_true]
  rw [Nat.div_add_mod]
  exact UInt8.ofNat_toNat

theorem decodeBytes_encodeByte (b : UInt8) (rest : List Char) :
    decodeBytes (encodeByte b ++ rest) = b :: decodeBytes rest := by
  simp only [encodeByte]
  split
  · rename_i h
    simp only [Bool.and_eq_true, decide_eq_true_eq] at h
    have hne : Char.ofNat b.toNat ≠ '%' := by
      intro e; rw [e] at h; exact absurd h.2 (by decide)
    have hv : (Char.ofNat b.toNat).toNat = b.toNat := by
      have valid : b.toNat.isValidChar := .inl (by omega)
      rw [Char.ofNat, dif_pos valid]
      rfl
    have enc : String.utf8EncodeChar (Char.ofNat b.toNat) = [b] := by
      have hv' : (Char.ofNat b.toNat).val.toNat = b.toNat := hv
      simp only [String.utf8EncodeChar, hv', show b.toNat ≤ 127 by omega, if_true,
        UInt8.ofNat_toNat]
    rw [List.singleton_append, decodeBytes]
    · rw [enc]; rfl
    · intro a b' r e
      exact absurd e hne
  · exact decodeBytes_escapeByte b rest

/-- **An encoded name decodes to its bytes**, whatever follows it. -/
theorem decodeBytes_encodeBytes (bs : List UInt8) (rest : List Char) :
    decodeBytes (encodeBytes bs ++ rest) = bs ++ decodeBytes rest := by
  induction bs with
  | nil => rfl
  | cons b bs ih =>
    rw [encodeBytes, List.flatMap_cons, List.append_assoc, decodeBytes_encodeByte]
    rw [← encodeBytes, ih, List.cons_append]

end AccessHarness.Text.Percent
