/-!
# Letter case and search

Two comparisons that disregard case, and the search for a fixed text inside another.

* `sameLetters` compares ASCII letters without regard to case and everything else as it
  is; it serves names typed by a user.
* `lower` is the part of the full Unicode lower-casing that a search for an ASCII text
  can see.  Outside ASCII exactly two characters have a lower-case form with an ASCII
  letter in it: U+212A (the kelvin sign, `k`) and U+0130 (the dotted capital I, an `i`
  followed by U+0307).  Every other character keeps its place and cannot become part
  of an ASCII match.
-/

namespace AccessHarness.Text

/-- Equality up to the case of ASCII letters. -/
def sameLetters (a b : String) : Bool :=
  a.toList.map Char.toLower == b.toList.map Char.toLower

/-- The lower-case form of a character, as far as an ASCII search can tell. -/
def lowerChar (c : Char) : List Char :=
  if c = '\u212a' then ['k']
  else if c = '\u0130' then ['i', '\u0307']
  else [c.toLower]

/-- The lower-case form of a text, as far as an ASCII search can tell. -/
def lower (l : List Char) : List Char := l.flatMap lowerChar

/-- Whether `sought` stands at the front of `l`. -/
def startsWith (sought : List Char) (l : List Char) : Bool := sought.isPrefixOf l

/-- Whether `sought` stands somewhere in `l`. -/
def occursIn (sought : List Char) : List Char → Bool
  | [] => sought.isEmpty
  | c :: rest => startsWith sought (c :: rest) || occursIn sought rest

/-- **A text occurs exactly where it can be cut out.** -/
theorem occursIn_iff {sought l : List Char} :
    occursIn sought l = true ↔ ∃ before after, l = before ++ sought ++ after := by
  induction l with
  | nil =>
    simp only [occursIn, List.isEmpty_iff]
    constructor
    · rintro rfl; exact ⟨[], [], rfl⟩
    · rintro ⟨b, a, h⟩
      have := congrArg List.length h
      simp at this
      exact List.length_eq_zero_iff.1 (by omega)
  | cons c rest ih =>
    simp only [occursIn, Bool.or_eq_true, startsWith, List.isPrefixOf_iff_prefix, ih]
    constructor
    · rintro (⟨a, h⟩ | ⟨b, a, h⟩)
      · exact ⟨[], a, by simp [h]⟩
      · exact ⟨c :: b, a, by simp [h]⟩
    · rintro ⟨b, a, h⟩
      cases b with
      | nil => exact .inl ⟨a, by simpa using h.symm⟩
      | cons d b =>
        simp only [List.cons_append, List.cons.injEq] at h
        exact .inr ⟨b, a, by simpa using h.2⟩

end AccessHarness.Text
