/-!
# Parts of a text

A text cut at every separator.  No part holds a separator, so parts that are joined are found
again (`parts_join`).
-/

namespace AccessHarness.Text

/-- Cut a list at every element that satisfies `p`; there is always at least one part. -/
def parts (p : Char → Bool) : List Char → List (List Char)
  | [] => [[]]
  | c :: rest =>
    if p c then [] :: parts p rest
    else match parts p rest with
      | [] => [[c]]
      | part :: others => (c :: part) :: others

/-- Parts with a separator between any two. -/
def join (separator : Char) : List (List Char) → List Char
  | [] => []
  | [part] => part
  | part :: others => part ++ separator :: join separator others

theorem parts_ne_nil (p : Char → Bool) (l : List Char) : parts p l ≠ [] := by
  cases l with
  | nil => simp [parts]
  | cons c rest =>
    simp only [parts]
    split
    · simp
    · split <;> simp

theorem join_cons_of_ne_nil (separator : Char) (part : List Char) {others : List (List Char)}
    (h : others ≠ []) :
    join separator (part :: others) = part ++ separator :: join separator others := by
  cases others with
  | nil => exact absurd rfl h
  | cons b rest => rfl

/-- A part without separator in front of what follows it. -/
theorem parts_append_cons {p : Char → Bool} {a : List Char} {c : Char} (rest : List Char)
    (ha : ∀ x ∈ a, p x = false) (hc : p c = true) :
    parts p (a ++ c :: rest) = a :: parts p rest := by
  induction a with
  | nil => simp [parts, hc]
  | cons x a ih =>
    have hx : p x = false := ha x (by simp)
    have ih := ih fun y hy => ha y (by simp [hy])
    simp [parts, hx, ih]

theorem parts_of_none {p : Char → Bool} {a : List Char} (ha : ∀ x ∈ a, p x = false) :
    parts p a = [a] := by
  induction a with
  | nil => rfl
  | cons x a ih =>
    have hx : p x = false := ha x (by simp)
    have ih := ih fun y hy => ha y (by simp [hy])
    simp [parts, hx, ih]

/-- **Parts without separators are found again.** -/
theorem parts_join {separator : Char} {l : List (List Char)} (hl : l ≠ [])
    (h : ∀ part ∈ l, separator ∉ part) : parts (· == separator) (join separator l) = l := by
  have clean {part : List Char} (hp : separator ∉ part) :
      ∀ x ∈ part, (x == separator) = false := by
    intro x hx
    simp only [beq_eq_false_iff_ne, ne_eq]
    rintro rfl
    exact hp hx
  induction l with
  | nil => exact absurd rfl hl
  | cons a rest ih =>
    have ha := clean (h a (by simp))
    cases rest with
    | nil => exact parts_of_none ha
    | cons b rest =>
      rw [join, parts_append_cons _ ha (by simp)]
      · rw [ih (by simp) fun part hp => h part (by simp [hp])]
      · simp

end AccessHarness.Text
