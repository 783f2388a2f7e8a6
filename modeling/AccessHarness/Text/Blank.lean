/-!
# Blank characters

The characters with the Unicode property `White_Space`, and the texts without them at
either end.  Settings, response bodies and suite names are all read through `trim`; a
text is *blank* when nothing is left of it.

Note what is not in the list: the zero-width characters U+200B and U+FEFF are visible
to every comparison, while the no-break space U+00A0 and the ideographic space U+3000
are trimmed like a plain space.
-/

namespace AccessHarness.Text

/-- The ranges of the property `White_Space`. -/
def blankRanges : List (Nat × Nat) :=
  [(0x09, 0x0d), (0x20, 0x20), (0x85, 0x85), (0xa0, 0xa0), (0x1680, 0x1680),
   (0x2000, 0x200a), (0x2028, 0x2029), (0x202f, 0x202f), (0x205f, 0x205f),
   (0x3000, 0x3000)]

/-- Whether a character is white space. -/
def isBlankChar (c : Char) : Bool :=
  blankRanges.any fun r => r.1 ≤ c.toNat && c.toNat ≤ r.2

/-- Drop the characters satisfying `p` from the end. -/
def dropEndWhile (p : Char → Bool) (l : List Char) : List Char :=
  (l.reverse.dropWhile p).reverse

/-- Drop blanks from both ends of a list of characters. -/
def trimChars (l : List Char) : List Char :=
  dropEndWhile isBlankChar (l.dropWhile isBlankChar)

/-- The text without the blanks at its ends. -/
def trim (s : String) : String := String.ofList (trimChars s.toList)

/-- Whether a text holds nothing but blanks. -/
def isBlank (s : String) : Bool := s.toList.all isBlankChar

theorem dropWhile_eq_nil_iff_all {p : Char → Bool} {l : List Char} :
    l.dropWhile p = [] ↔ l.all p = true := by
  induction l with
  | nil => simp
  | cons c r ih => cases h : p c <;> simp [h, ih]

/-- **Blank means nothing to trim down to.** -/
theorem isBlank_iff_trim_eq_empty (s : String) : isBlank s = true ↔ trim s = "" := by
  have key : trim s = "" ↔ trimChars s.toList = [] := by
    simp only [trim]
    constructor
    · intro h
      have := congrArg String.toList h
      simpa using this
    · intro h; simp [h]
  rw [key, isBlank, trimChars]
  constructor
  · intro h
    have : s.toList.dropWhile isBlankChar = [] := by
      rw [dropWhile_eq_nil_iff_all]; simpa using h
    simp [this, dropEndWhile]
  · intro h
    have h' : (s.toList.dropWhile isBlankChar).reverse.dropWhile isBlankChar = [] := by
      simpa [dropEndWhile] using h
    rw [dropWhile_eq_nil_iff_all] at h'
    cases hd : s.toList.dropWhile isBlankChar with
    | nil => exact dropWhile_eq_nil_iff_all.1 hd
    | cons c r =>
      have hc := List.head_dropWhile_not isBlankChar (l := s.toList) (by simp [hd])
      simp only [hd, List.head_cons] at hc
      have := List.all_eq_true.1 h' c (by simp [hd])
      simp [this] at hc

end AccessHarness.Text
