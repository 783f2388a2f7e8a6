import AccessHarness.Json.Reader
import AccessHarness.Decimal.Binary64
import AccessHarness.OrderedMap

/-!
# Decoding JSON

How a value of a known type is read from a document.  The rules, the same for every
type:

* a record is an object, or an array of its fields in declared order; fields nobody
  declared are passed over; a declared field given twice is a fault, and so is one that
  is missing, unless the record says what stands for it;
* a choice among names is one of the names, or an object with that name and `null`, or,
  in a record that was taken in whole, an empty object;
* a number is never rounded: a whole number is written without point and exponent, fits
  its range, and is not `-0`;
* texts, numbers and truth values are never turned into one another;
* in a map the last binding of a name counts, a set forgets repetitions, and both are
  in order.

**Room.**  At most 127 arrays and objects may lie inside one another in the part of a
document that is read.  A decoder takes the number that may still be entered; parts that
nobody asks for are not counted.
-/

namespace AccessHarness

namespace Numeral

open Decimal

/-- The value of a list of digits. -/
def digitsValue (ds : List Char) : Nat := Nat.ofDigitChars 10 ds 0

/-- The whole number that is written, if the form is that of a whole number.  `-0` is
not: its sign would be lost. -/
def toInt? (n : Numeral) : Option Int :=
  if n.fraction.isEmpty && n.exponent.isNone then
    let v := digitsValue n.whole
    if n.negative then (if v = 0 then none else some (-(v : Int))) else some v
  else none

/-- Take digits into a significand as long as it stays below `2 ^ 64`: the significand
and how many digits were left over. -/
def takeDigits : List Char → Nat → Nat × Nat
  | [], acc => (acc, 0)
  | c :: rest, acc =>
    let next := acc * 10 + (c.toNat - 48)
    if next < UInt64.size then takeDigits rest next else (acc, rest.length + 1)

/-- The floating-point number that is written; `none` beyond the greatest.  Digits past
the 64-bit significand only move the point. -/
def toBinary64? (n : Numeral) : Option Binary64 :=
  let (s, left) := takeDigits n.whole 0
  let (significand, beyond) := takeDigits n.fraction s
  let point : Int := left - ((n.fraction.length : Int) - beyond)
  match n.exponent with
  | none => Binary64.ofDecimal n.negative significand point
  | some (negative, ds) =>
    let e : Int := digitsValue ds
    if significand = 0 then Binary64.ofDecimal n.negative 0 0
    else if 0x80000000 ≤ e then
      if negative then Binary64.ofDecimal n.negative 0 0 else none
    else Binary64.ofDecimal n.negative significand (if negative then point - e else point + e)

/-- The numeral of a finite floating-point number: the fewest digits that read back,
with a point when the number is at least 0.00001 and below ten to the 16th, with an
exponent otherwise. -/
def ofBinary64 (x : Binary64) : Numeral :=
  if x.significand = 0 then ⟨x.isNegative, ['0'], ['0'], none⟩
  else
    let (n, k) := x.shortest
    let digits := Nat.toDigits 10 n
    let point : Int := digits.length + k
    if 0 ≤ k ∧ point ≤ 16 then
      ⟨x.isNegative, digits ++ List.replicate k.toNat '0', ['0'], none⟩
    else if 0 < point ∧ point ≤ 16 then
      ⟨x.isNegative, digits.take point.toNat, digits.drop point.toNat, none⟩
    else if -5 < point ∧ point ≤ 0 then
      ⟨x.isNegative, ['0'], List.replicate (-point).toNat '0' ++ digits, none⟩
    else
      ⟨x.isNegative, digits.take 1, digits.drop 1,
        some (decide (point - 1 < 0), Nat.toDigits 10 (point - 1).natAbs)⟩

end Numeral

namespace Json

/-- The document of a finite floating-point number. -/
def ofBinary64 (x : Decimal.Binary64) : Json := .num (Numeral.ofBinary64 x)

/-- The number of arrays and objects that may lie inside one another. -/
def depthLimit : Nat := 127

/-- A number as it is kept in a document of no known type: whole if it is written whole
and fits 64 bits, floating-point otherwise. -/
def canonicalNumeral (n : Numeral) : Option Numeral :=
  match n.toInt? with
  | some i =>
    if -0x8000000000000000 ≤ i ∧ i < UInt64.size then some n else n.toBinary64?.map Numeral.ofBinary64
  | none => n.toBinary64?.map Numeral.ofBinary64

mutual
/-- A document of no known type as it is kept: fields in the order of their names, the
last of equal names, numbers in their own form. -/
def canonical (room : Nat) : Json → Option Json
  | .null => some .null
  | .bool b => some (.bool b)
  | .num n => (canonicalNumeral n).map .num
  | .str s => some (.str s)
  | .unreadable => none
  | .arr items =>
    match room with
    | 0 => none
    | room + 1 => (canonicalItems room items).map .arr
  | .obj fields =>
    match room with
    | 0 => none
    | room + 1 =>
      (canonicalFields room fields).map fun fs => .obj (OrderedMap.ofList fs).entries
/-- The items of an array, kept. -/
def canonicalItems (room : Nat) : List Json → Option (List Json)
  | [] => some []
  | v :: rest =>
    match canonical room v with
    | none => none
    | some v' => (canonicalItems room rest).map (v' :: ·)
/-- The fields of an object, kept. -/
def canonicalFields (room : Nat) : List (String × Json) → Option (List (String × Json))
  | [] => some []
  | (k, v) :: rest =>
    match canonical room v with
    | none => none
    | some v' => (canonicalFields room rest).map ((k, v') :: ·)
end

/-- Reads a value from a document, given how many arrays and objects may still be
entered. -/
abbrev Decoder (α : Type) := Nat → Json → Option α

namespace Decoder

variable {α β : Type}

/-- A document of no known type. -/
def any : Decoder Json := canonical

/-- A text. -/
def string : Decoder String
  | _, .str s => some s
  | _, _ => none

/-- A truth value. -/
def bool : Decoder Bool
  | _, .bool b => some b
  | _, _ => none

/-- Nothing. -/
def unit : Decoder Unit
  | _, .null => some ()
  | _, _ => none

/-- A whole number from `lo` on and below `hi`. -/
def int (lo hi : Int) : Decoder Int
  | _, .num n => n.toInt?.bind fun i => if lo ≤ i ∧ i < hi then some i else none
  | _, _ => none

/-- A whole number of 64 bits. -/
def int64 : Decoder Int := int (-0x8000000000000000) 0x8000000000000000

/-- A whole number of 32 bits. -/
def int32 : Decoder Int := int (-0x80000000) 0x80000000

/-- A natural number below a bound. -/
def nat (bound : Nat) : Decoder Nat := fun room j => (int 0 bound room j).map Int.toNat

/-- A floating-point number; a whole one is accepted. -/
def binary64 : Decoder Decimal.Binary64
  | _, .num n =>
    match n.toInt? with
    | some i =>
      if -0x8000000000000000 ≤ i ∧ i < UInt64.size then
        some (.signed (decide (i < 0)) (.ofNat i.natAbs))
      else n.toBinary64?
    | none => n.toBinary64?
  | _, _ => none

/-- A value or `null`. -/
def option (d : Decoder α) : Decoder (Option α)
  | _, .null => some none
  | room, j => (d room j).map some

/-- The items of a list, in order. -/
def items (d : Json → Option α) : List Json → Option (List α)
  | [] => some []
  | j :: rest =>
    match d j with
    | none => none
    | some a => (items d rest).map (a :: ·)

/-- A list. -/
def list (d : Decoder α) : Decoder (List α)
  | room + 1, .arr js => items (d room) js
  | _, _ => none

/-- A set: repetitions are forgotten. -/
def set [Ranked α] (d : Decoder α) : Decoder (OrderedSet α) := fun room j =>
  (list d room j).map OrderedSet.ofMembers

/-- The bindings of a map, in order. -/
def bindings (d : Json → Option α) : List (String × Json) → Option (List (String × α))
  | [] => some []
  | (k, j) :: rest =>
    match d j with
    | none => none
    | some a => (bindings d rest).map ((k, a) :: ·)

/-- A map: the last binding of a name counts. -/
def map (d : Decoder α) : Decoder (OrderedMap String α)
  | room + 1, .obj fields => (bindings (d room) fields).map OrderedMap.ofList
  | _, _ => none

/-- One of a list of names: the name, or an object with that name and a value that says
nothing. -/
def choiceBeside (saysNothing : Json → Bool) (names : List (String × α)) : Decoder α
  | _, .str s => names.lookup s
  | _ + 1, .obj [(s, j)] => if saysNothing j then names.lookup s else none
  | _, _ => none

/-- Whether a document is `null`. -/
def isNull : Json → Bool
  | .null => true
  | _ => false

/-- Whether a document is `null` or an object without fields. -/
def isVoid : Json → Bool
  | .null => true
  | .obj [] => true
  | _ => false

/-- One of a list of names. -/
def choice (names : List (String × α)) : Decoder α := choiceBeside isNull names

/-- One of a list of names, in a record that was taken in before it is looked at: there
an object without fields says as little as `null`. -/
def keptChoice (names : List (String × α)) : Decoder α := choiceBeside isVoid names

/-- Change the value that is read. -/
def mapped (f : α → β) (d : Decoder α) : Decoder β := fun room j => (d room j).map f

end Decoder

/-- The fields of a record that were found, with the room inside the record. -/
structure Row where
  /-- How many arrays and objects may be entered inside a field. -/
  room : Nat
  /-- The declared fields that are present. -/
  cells : List (String × Json)

namespace Row

/-- Whether no name stands twice. -/
def distinctNames : List String → Bool
  | [] => true
  | k :: rest => !rest.contains k && distinctNames rest

/-- The declared fields of a record, from an object or from an array. -/
def read (names : List String) : Decoder Row
  | room + 1, .obj fields =>
    let known := fields.filter fun f => names.contains f.1
    if distinctNames (known.map (·.1)) then some ⟨room, known⟩ else none
  | room + 1, .arr js =>
    if js.length ≤ names.length then some ⟨room, names.zip js⟩ else none
  | _, _ => none

variable {α : Type}

/-- A field that must be there. -/
def required (r : Row) (name : String) (d : Decoder α) : Option α :=
  (r.cells.lookup name).bind (d r.room)

/-- A field that may be missing or `null`. -/
def optional (r : Row) (name : String) (d : Decoder α) : Option (Option α) :=
  match r.cells.lookup name with
  | none => some none
  | some j => Decoder.option d r.room j

/-- A field with a value for when it is missing. -/
def defaulted (r : Row) (name : String) (d : Decoder α) (value : α) : Option α :=
  match r.cells.lookup name with
  | none => some value
  | some j => d r.room j

end Row

/-- **Decode a text.** -/
def decodeDocument {α : Type} (d : Decoder α) (l : List Char) : Option α :=
  (read? l).bind (d depthLimit)

end Json

end AccessHarness
