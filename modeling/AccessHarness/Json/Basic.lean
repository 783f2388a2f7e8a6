/-!
# JSON documents

A document as it is written: fields in written order, a field given twice still there
twice, a number as its digits.  What a reader makes of a doubled field or of a long
number is decided where the document is *decoded* (`AccessHarness.Json.Decoder`), not
where it is read.

**Unreadable texts.**  A text may name half of a surrogate pair.  Such a text has no
characters, but a document containing one in a field that nobody asks for is still a
document; `Json.unreadable` stands for it, and for an object with such a text among its
names.
-/

namespace AccessHarness

/-- A number as written: its sign, the digits before and after the point, and the
exponent with its sign. -/
structure Numeral where
  /-- Whether a minus sign is written. -/
  negative : Bool
  /-- The digits before the point. -/
  whole : List Char
  /-- The digits after the point; none when there is no point. -/
  fraction : List Char
  /-- The exponent: whether it is negative, and its digits. -/
  exponent : Option (Bool × List Char)
  deriving DecidableEq, Repr, Inhabited

/-- A JSON document. -/
inductive Json where
  | null
  | bool (b : Bool)
  | num (n : Numeral)
  | str (s : String)
  /-- A text that names half of a surrogate pair, or an object with such a name. -/
  | unreadable
  | arr (items : List Json)
  | obj (fields : List (String × Json))
  deriving Inhabited

namespace Json

mutual
/-- Equality of documents. -/
def same : Json → Json → Bool
  | .null, .null => true
  | .bool a, .bool b => a == b
  | .num a, .num b => a == b
  | .str a, .str b => a == b
  | .unreadable, .unreadable => true
  | .arr a, .arr b => sameItems a b
  | .obj a, .obj b => sameFields a b
  | _, _ => false
/-- Equality of item lists. -/
def sameItems : List Json → List Json → Bool
  | [], [] => true
  | a :: as, b :: bs => same a b && sameItems as bs
  | _, _ => false
/-- Equality of field lists. -/
def sameFields : List (String × Json) → List (String × Json) → Bool
  | [], [] => true
  | (k, a) :: as, (l, b) :: bs => k == l && same a b && sameFields as bs
  | _, _ => false
end

mutual
theorem same_iff : ∀ a b : Json, same a b = true ↔ a = b
  | .null, b => by cases b <;> simp [same]
  | .bool a, b => by cases b <;> simp [same]
  | .num a, b => by cases b <;> simp [same]
  | .str a, b => by cases b <;> simp [same]
  | .unreadable, b => by cases b <;> simp [same]
  | .arr as, b => by
    cases b with
    | arr bs => simp [same, sameItems_iff as bs]
    | _ => simp [same]
  | .obj as, b => by
    cases b with
    | obj bs => simp [same, sameFields_iff as bs]
    | _ => simp [same]
theorem sameItems_iff : ∀ as bs : List Json, sameItems as bs = true ↔ as = bs
  | [], bs => by cases bs <;> simp [sameItems]
  | a :: as, bs => by
    cases bs with
    | nil => simp [sameItems]
    | cons b bs => simp [sameItems, same_iff a b, sameItems_iff as bs]
theorem sameFields_iff : ∀ as bs : List (String × Json), sameFields as bs = true ↔ as = bs
  | [], bs => by cases bs <;> simp [sameFields]
  | (k, a) :: as, bs => by
    cases bs with
    | nil => simp [sameFields]
    | cons b bs =>
      obtain ⟨l, b⟩ := b
      simp [sameFields, same_iff a b, sameFields_iff as bs, and_assoc]
end

instance : DecidableEq Json := fun a b => decidable_of_iff _ (same_iff a b)

/-- The object with these fields, where every name is readable. -/
def ofFields (fields : List (Option String × Json)) : Json :=
  match fields.mapM fun f => f.1.map fun name => (name, f.2) with
  | some named => .obj named
  | none => .unreadable

/-- A whole number. -/
def ofInt (n : Int) : Json :=
  .num ⟨decide (n < 0), Nat.toDigits 10 n.natAbs, [], none⟩

/-- A natural number. -/
def ofNat (n : Nat) : Json := ofInt n

/-- A list of documents, each made from a value. -/
def ofList {α : Type} (f : α → Json) (l : List α) : Json := .arr (l.map f)

/-- `null` for a missing value. -/
def ofOption {α : Type} (f : α → Json) : Option α → Json
  | none => .null
  | some a => f a

/-- A field that is left out when there is no value. -/
def optionalField {α : Type} (name : String) (f : α → Json) : Option α → List (String × Json)
  | none => []
  | some a => [(name, f a)]

/-- The value of a field; of a field given twice, the last. -/
def field? (j : Json) (name : String) : Option Json :=
  match j with
  | .obj fields => fields.reverse.lookup name
  | _ => none

end Json

end AccessHarness
