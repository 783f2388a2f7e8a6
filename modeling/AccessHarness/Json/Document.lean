import AccessHarness.Json.Decoder

/-!
# Documents

A type of values that are exchanged as documents: how a value is written, and how it is
read back.  Every record of the platform is an instance, and lists, sets, maps and
missing values of documents are documents again.
-/

namespace AccessHarness

open Json

/-- **A type of values that are exchanged as documents.** -/
class Document (α : Type) where
  /-- How a value is written. -/
  toJson : α → Json
  /-- How a value is read. -/
  decoder : Decoder α

namespace Document

variable {α β : Type}

instance : Document Json := ⟨id, Decoder.any⟩

instance : Document String := ⟨.str, Decoder.string⟩

instance : Document Bool := ⟨.bool, Decoder.bool⟩

instance : Document Unit := ⟨fun _ => .null, Decoder.unit⟩

/-- Whole numbers of 64 bits. -/
instance : Document Int := ⟨.ofInt, Decoder.int64⟩

/-- Natural numbers of 64 bits. -/
instance : Document Nat := ⟨.ofNat, Decoder.nat UInt64.size⟩

instance [Document α] : Document (Option α) := ⟨ofOption toJson, Decoder.option decoder⟩

instance [Document α] : Document (List α) := ⟨ofList toJson, Decoder.list decoder⟩

/-- A pair is written as a list of two. -/
instance [Document α] [Document β] : Document (α × β) where
  toJson x := .arr [toJson x.1, toJson x.2]
  decoder
    | room + 1, .arr [a, b] => do
      let a ← decoder room a
      let b ← decoder room b
      return (a, b)
    | _, _ => none

/-- A set is written as the list of its members. -/
instance [Ranked α] [Document α] : Document (OrderedSet α) :=
  ⟨fun s => ofList toJson (OrderedSet.members s), Decoder.set decoder⟩

/-- A map is written as an object. -/
instance [Document α] : Document (OrderedMap String α) :=
  ⟨fun m => .obj (m.entries.map fun x => (x.1, toJson x.2)), Decoder.map decoder⟩

end Document

end AccessHarness
