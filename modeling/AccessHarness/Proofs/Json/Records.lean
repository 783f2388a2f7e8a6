import AccessHarness.Proofs.Json.Arrangement
import Mathlib.Data.List.Perm.Basic

/-!
# Documents made of documents

Records, lists, maps and choices are read back from their documents as soon as their parts are.
`Document.Exact` says so of a type; this file passes from parts to wholes.

* `Row.Mirrors` — a row that holds the fields of a record, each in some arrangement, and
  `Row.exists_mirror`, a record is read as such a row.
* `Row.Mirrors.required`, `Row.Mirrors.defaulted`, `Row.Mirrors.optional` — each field is the value
  it was written from.
* `Document.Exact.list`, `Document.Exact.map`, `Document.Exact.ofChoice` — lists, maps and choices
  among names.

### What is load-bearing

**A field is looked up before it is read.**  Whatever order a record comes in, a name leads to an
arrangement of the value that was written under it (`ArrangesFields.lookup`), or to nothing on
both sides.  So a record is read back field by field, and no proof about a record speaks of the
order of its fields.
-/

namespace AccessHarness

namespace Json

variable {fields fields' : List (String × Json)} {name : String}

/-! ### Fields in some arrangement -/

/-- An arrangement of fields keeps their names. -/
theorem ArrangesFields.names (h : ArrangesFields fields fields') :
    fields'.map (·.1) = fields.map (·.1) := by
  induction fields generalizing fields' with
  | nil =>
    obtain rfl : fields' = [] := h
    rfl
  | cons f rest ih =>
    obtain ⟨v', rest', -, others, rfl⟩ := h
    rw [List.map_cons, List.map_cons, ih others]

/-- **What is found under a name is an arrangement of what was written there.** -/
theorem ArrangesFields.lookup (h : ArrangesFields fields fields') (name : String) :
    Option.Rel Arranges (fields.lookup name) (fields'.lookup name) := by
  induction fields generalizing fields' with
  | nil =>
    obtain rfl : fields' = [] := h
    exact .none
  | cons f rest ih =>
    obtain ⟨key, v⟩ := f
    obtain ⟨v', rest', first, others, rfl⟩ := h
    rw [List.lookup_cons, List.lookup_cons]
    cases name == key with
    | true => exact .some first
    | false => exact ih others

/-- Fields that may be left out are made without numbers if their values are. -/
theorem plainFields_optionalField {α : Type} {f : α → Json} {o : Option α}
    (h : ∀ a, (f a).Plain) : PlainFields (optionalField name f o) := by
  cases o with
  | none => trivial
  | some a => exact ⟨h a, trivial⟩

theorem plainFields_append :
    PlainFields (fields ++ fields') ↔ PlainFields fields ∧ PlainFields fields' := by
  simp only [plainFields_iff, List.forall_mem_append]

/-! ### Rows -/

namespace Row

variable {α : Type} {r : Row} {room depth : Nat} [Document α]

/-- **Whether a row holds the fields of a record**, each in some arrangement, with this much room
inside. -/
def Mirrors (r : Row) (room : Nat) (fields : List (String × Json)) : Prop :=
  r.room = room ∧ ∀ name, Option.Rel Arranges (fields.lookup name) (r.cells.lookup name)

/-- **Every arrangement of a record is read as its fields.** -/
theorem exists_mirror (names : List String) (room : Nat) {k : Json}
    (arranged : Arranges (.obj fields) k) (declared : ∀ f ∈ fields, f.1 ∈ names)
    (distinct : (fields.map (·.1)).Nodup) :
    ∃ r, read names (room + 1) k = some r ∧ r.Mirrors room fields := by
  obtain ⟨fields', moved, values, order, rfl⟩ := arranged
  have declared' : ∀ f ∈ fields', f.1 ∈ names := by
    intro f mem
    have kept : f.1 ∈ fields.map (·.1) := values.names ▸ List.mem_map_of_mem mem
    obtain ⟨g, mem', same⟩ := List.mem_map.1 kept
    exact same ▸ declared g mem'
  obtain ⟨r, read, holds⟩ := exists_read names room order declared' (values.names ▸ distinct)
  refine ⟨r, read, holds.1, ?_⟩
  intro name
  rw [holds.2]
  exact values.lookup name

namespace Mirrors

variable {a : α} (h : r.Mirrors room fields) (exact : Document.Exact α depth)
  (deep : depth ≤ room)

include h

private theorem exists_cell {j : Json} (found : fields.lookup name = some j) :
    ∃ k, r.cells.lookup name = some k ∧ Arranges j k := by
  have related := h.2 name
  rw [found] at related
  cases cell : r.cells.lookup name with
  | none =>
    rw [cell] at related
    cases related
  | some k =>
    rw [cell] at related
    cases related with
    | some arranged => exact ⟨k, rfl, arranged⟩

include exact deep

/-- A field that must be there. -/
theorem required (found : fields.lookup name = some (Document.toJson a)) :
    r.required name Document.decoder = some a := by
  obtain ⟨k, cell, arranged⟩ := h.exists_cell found
  obtain ⟨spare, rfl⟩ := Nat.exists_eq_add_of_le' deep
  rw [Row.required, cell, h.1, Option.bind_some]
  exact exact.reads a k spare arranged

/-- A field that is there, whatever would stand for it. -/
theorem defaulted (value : α) (found : fields.lookup name = some (Document.toJson a)) :
    r.defaulted name Document.decoder value = some a := by
  obtain ⟨k, cell, -⟩ := h.exists_cell found
  have read := h.required exact deep found
  rw [Row.required, cell, Option.bind_some] at read
  rw [Row.defaulted, cell]
  exact read

/-- A field that may be left out, unless its value could be taken for a missing one. -/
theorem optional {o : Option α} (value : ∀ a : α, Document.toJson a ≠ .null)
    (found : fields.lookup name = o.map Document.toJson) :
    r.optional name Document.decoder = some o := by
  cases o with
  | none =>
    have related := h.2 name
    rw [found, Option.map_none] at related
    cases cell : r.cells.lookup name with
    | none => rw [Row.optional, cell]
    | some k =>
      rw [cell] at related
      cases related
  | some a =>
    rw [Option.map_some] at found
    obtain ⟨k, cell, arranged⟩ := h.exists_cell found
    have read := h.required exact deep found
    rw [Row.required, cell, Option.bind_some] at read
    have proper : k ≠ .null := arranged.ne_null (value a)
    rw [Row.optional, cell]
    cases k with
    | null => exact (proper rfl).elim
    | _ => simp only [Decoder.option, read, Option.map_some]

end Mirrors

end Row

end Json

/-! ### Types put together from others -/

namespace Document

open Json

variable {α : Type} [Document α] {depth : Nat}

/-- A text is read back. -/
theorem exact_string : Exact String 0 where
  plain _ := trivial
  reads := by
    rintro s k room rfl
    rfl

/-- **A choice among names is read back**, if each alternative is found under its own name. -/
theorem Exact.ofChoice {names : List (String × α)} {display : α → String}
    (written : ∀ a : α, toJson a = .str (display a))
    (chosen : (decoder : Decoder α) = Decoder.choice names)
    (found : ∀ a, names.lookup (display a) = some a) : Exact α 0 where
  plain a := by
    rw [written]
    trivial
  reads := by
    intro a k room arranged
    rw [written] at arranged
    obtain rfl : k = .str (display a) := arranged
    rw [chosen]
    exact found a

/-- **A list is read back in order.** -/
theorem Exact.list (h : Exact α depth) : Exact (List α) (depth + 1) where
  plain l := by
    refine plainItems_iff.2 ?_
    intro j mem
    obtain ⟨a, -, rfl⟩ := List.mem_map.1 mem
    exact h.plain a
  reads := by
    rintro l k room ⟨items, arranged, rfl⟩
    exact Decoder.items_arranged (fun a k => h.reads a k room) arranged

omit [Document α] in
/-- The bindings of a map are read whatever their order. -/
private theorem exists_bindings {f : α → Json} {d : Json → Option α} {l : List (String × α)}
    {fields moved : List (String × Json)} (h : ∀ a k, Arranges (f a) k → d k = some a)
    (arranged : ArrangesFields (l.map fun x => (x.1, f x.2)) fields) (order : moved.Perm fields) :
    ∃ l', Decoder.bindings d moved = some l' ∧ l'.Perm l := by
  have each : List.Forall₂ (fun (y : String × Json) (x : String × α) =>
      y.1 = x.1 ∧ d y.2 = some x.2) fields l := by
    clear order
    induction l generalizing fields with
    | nil =>
      obtain rfl : fields = [] := arranged
      exact .nil
    | cons x rest ih =>
      obtain ⟨v, others, first, arranged, rfl⟩ := arranged
      exact .cons ⟨rfl, h _ _ first⟩ (ih arranged)
  obtain ⟨l', paired, same⟩ := List.perm_comp_forall₂ order each
  refine ⟨l', ?_, same⟩
  clear order same
  induction paired with
  | nil => rfl
  | @cons y x others rest first _ ih =>
    obtain ⟨key, j⟩ := y
    obtain ⟨key', a⟩ := x
    obtain ⟨rfl, read⟩ := first
    simp only [Decoder.bindings, show d j = some a from read, ih, Option.map_some]

/-- **A map is read back**, whatever the order of its bindings. -/
theorem Exact.map (h : Exact α depth) : Exact (OrderedMap String α) (depth + 1) where
  plain m := by
    refine plainFields_iff.2 ?_
    intro f mem
    obtain ⟨x, -, rfl⟩ := List.mem_map.1 mem
    exact h.plain x.2
  reads := by
    rintro m k room ⟨fields, moved, arranged, order, rfl⟩
    obtain ⟨l, read, same⟩ := exists_bindings (fun a k => h.reads a k room) arranged order
    show (Decoder.bindings (decoder (room + depth)) moved).map OrderedMap.ofList = some m
    rw [read, Option.map_some, OrderedMap.ofList_eq_of_perm m same]

end Document

end AccessHarness
