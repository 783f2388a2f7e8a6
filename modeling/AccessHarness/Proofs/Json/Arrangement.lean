import AccessHarness.Proofs.Json.RoundTrip
import AccessHarness.Proofs.Lookup
import AccessHarness.Rest.Client

/-!
# Documents read back, whatever the order of their fields

An object says the same however its fields are ordered: the harness writes a record with its
fields as they are declared, and holds a body that it posts with its fields by name.
`Arranges j k` says that `k` is the document `j` with the fields of each object in some
order.

* `Row.exists_read` — a record is read from any arrangement of its fields, and each field
  found there is the one that was written.
* `Document.Exact` — every arrangement of the document of a value is read as that value,
  given enough room; `Exact.set` passes from values to sets of them.
* `Document.Faithful` — so it is for whole bodies, and different values have different
  texts; `Exact.faithful` derives it.

### What is load-bearing

The names of a record are different.  A reader takes a field by its name, and with a name
written twice no order of the fields would be as good as another.
-/

namespace AccessHarness

namespace Json

/-! ### Arrangements -/

mutual
/-- **Whether a document is another one with its fields in some order.** -/
def Arranges : Json → Json → Prop
  | .null, k => k = .null
  | .bool b, k => k = .bool b
  | .num n, k => k = .num n
  | .str s, k => k = .str s
  | .unreadable, k => k = .unreadable
  | .arr items, k => ∃ items', ArrangesItems items items' ∧ k = .arr items'
  | .obj fields, k =>
    ∃ fields' moved, ArrangesFields fields fields' ∧ moved.Perm fields' ∧ k = .obj moved
/-- Whether each item is the other one with its fields in some order. -/
def ArrangesItems : List Json → List Json → Prop
  | [], items => items = []
  | v :: rest, items =>
    ∃ v' rest', Arranges v v' ∧ ArrangesItems rest rest' ∧ items = v' :: rest'
/-- Whether each value of a field is the other one with its fields in some order. -/
def ArrangesFields : List (String × Json) → List (String × Json) → Prop
  | [], fields => fields = []
  | (name, v) :: rest, fields =>
    ∃ v' rest', Arranges v v' ∧ ArrangesFields rest rest' ∧ fields = (name, v') :: rest'
end

mutual
theorem arranges_refl : ∀ j : Json, Arranges j j
  | .null | .bool _ | .num _ | .str _ | .unreadable => rfl
  | .arr items => ⟨items, arrangesItems_refl items, rfl⟩
  | .obj fields => ⟨fields, fields, arrangesFields_refl fields, .refl _, rfl⟩
theorem arrangesItems_refl : ∀ items : List Json, ArrangesItems items items
  | [] => rfl
  | v :: rest => ⟨v, rest, arranges_refl v, arrangesItems_refl rest, rfl⟩
theorem arrangesFields_refl : ∀ fields : List (String × Json), ArrangesFields fields fields
  | [] => rfl
  | (_, v) :: rest => ⟨v, rest, arranges_refl v, arrangesFields_refl rest, rfl⟩
end

mutual
/-- An arrangement has no numbers either. -/
theorem Arranges.plain : ∀ {j k : Json}, Arranges j k → j.Plain → k.Plain
  | .null, _, rfl, _ => trivial
  | .bool _, _, rfl, _ => trivial
  | .num _, _, _, h => h.elim
  | .str _, _, rfl, _ => trivial
  | .unreadable, _, _, h => h.elim
  | .arr _, _, ⟨_, arranged, rfl⟩, h => arranged.plain h
  | .obj _, _, ⟨_, _, arranged, moved, rfl⟩, h =>
    plainFields_iff.2 fun f mem => plainFields_iff.1 (arranged.plain h) f (moved.mem_iff.1 mem)
theorem ArrangesItems.plain :
    ∀ {items items' : List Json}, ArrangesItems items items' → PlainItems items →
      PlainItems items'
  | [], _, rfl, _ => trivial
  | _ :: _, _, ⟨_, _, first, others, rfl⟩, h => ⟨first.plain h.1, others.plain h.2⟩
theorem ArrangesFields.plain :
    ∀ {fields fields' : List (String × Json)}, ArrangesFields fields fields' →
      PlainFields fields → PlainFields fields'
  | [], _, rfl, _ => trivial
  | (_, _) :: _, _, ⟨_, _, first, others, rfl⟩, h => ⟨first.plain h.1, others.plain h.2⟩
end

/-- What is not `null` has no arrangement that is. -/
theorem Arranges.ne_null {j k : Json} (h : Arranges j k) (value : j ≠ .null) : k ≠ .null := by
  cases j with
  | null => exact (value rfl).elim
  | arr items =>
    obtain ⟨_, _, rfl⟩ := h
    simp
  | obj fields =>
    obtain ⟨_, _, _, _, rfl⟩ := h
    simp
  | _ =>
    obtain rfl := h
    simp

theorem ArrangesFields.append {fields fields' moved : List (String × Json)}
    (h : ArrangesFields (fields ++ fields') moved) :
    ∃ first last, ArrangesFields fields first ∧ ArrangesFields fields' last ∧
      moved = first ++ last := by
  induction fields generalizing moved with
  | nil => exact ⟨[], moved, rfl, h, rfl⟩
  | cons f rest ih =>
    obtain ⟨v, others, arranged, h, rfl⟩ := h
    obtain ⟨first, last, before, after, rfl⟩ := ih h
    exact ⟨_, last, ⟨v, first, arranged, before, rfl⟩, after, rfl⟩

/-- A field that may be left out is left out or written in any arrangement as in the
document. -/
theorem ArrangesFields.optionalField {α : Type} {name : String} {f : α → Json} {o : Option α}
    {moved : List (String × Json)} (h : ArrangesFields (optionalField name f o) moved) :
    ∃ o', Option.Rel (fun a k => Arranges (f a) k) o o' ∧
      moved = Json.optionalField name id o' := by
  cases o with
  | none => exact ⟨none, .none, h⟩
  | some a =>
    obtain ⟨k, _, arranged, rfl, rfl⟩ := h
    exact ⟨some k, .some arranged, rfl⟩

/-- Fields that are texts stay as they are. -/
theorem ArrangesFields.eq_of_texts {fields fields' : List (String × Json)}
    (h : ArrangesFields fields fields') (texts : ∀ f ∈ fields, ∃ s, f.2 = .str s) :
    fields' = fields := by
  induction fields generalizing fields' with
  | nil => exact h
  | cons f rest ih =>
    obtain ⟨k, v⟩ := f
    obtain ⟨v', rest', first, others, rfl⟩ := h
    obtain ⟨s, rfl⟩ : ∃ s, v = .str s := texts (k, v) List.mem_cons_self
    obtain rfl : v' = .str s := first
    rw [ih others fun f mem => texts f (List.mem_cons_of_mem _ mem)]

/-- Fields that are texts can be kept. -/
theorem canonicalFields_texts (room : Nat) {fields : List (String × Json)}
    (texts : ∀ f ∈ fields, ∃ s, f.2 = .str s) : canonicalFields room fields = some fields := by
  induction fields with
  | nil => rfl
  | cons f rest ih =>
    obtain ⟨k, v⟩ := f
    obtain ⟨s, rfl⟩ : ∃ s, v = .str s := texts (k, v) List.mem_cons_self
    simp [canonicalFields, canonical, ih fun f mem => texts f (List.mem_cons_of_mem _ mem)]

/-- What is looked up by name does not depend on the order of the fields. -/
theorem lookup_eq_of_perm {α : Type} {fields moved : List (String × α)} (h : moved.Perm fields)
    (distinct : (fields.map (·.1)).Nodup) (name : String) :
    moved.lookup name = fields.lookup name := by
  induction h with
  | nil => rfl
  | cons f _ ih =>
    obtain ⟨key, v⟩ := f
    rw [List.map_cons, List.nodup_cons] at distinct
    simp only [List.lookup_cons, ih distinct.2]
  | swap f g rest =>
    obtain ⟨key, v⟩ := f
    obtain ⟨key', v'⟩ := g
    simp only [List.map_cons, List.nodup_cons, List.mem_cons, not_or] at distinct
    simp only [List.lookup_cons]
    -- the name is at most one of the two
    by_cases first : name = key
    · have second : name ≠ key' := by
        intro same
        exact distinct.1.1 (first.symm.trans same)
      simp [beq_eq_false_iff_ne.2 second]
    · simp [beq_eq_false_iff_ne.2 first]
  | trans _ after ih ih' =>
    rw [ih ((after.map _).nodup_iff.2 distinct), ih' distinct]

theorem Row.distinctNames_iff {names : List String} :
    distinctNames names = true ↔ names.Nodup := by
  induction names with
  | nil => simp [distinctNames]
  | cons name rest ih => simp [distinctNames, ih]

namespace Row

variable {α : Type} {r : Row} {room : Nat} {fields : List (String × Json)} {name : String}
  {d : Decoder α}

/-- Whether a row holds these fields, with this much room inside each. -/
def Holds (r : Row) (room : Nat) (fields : List (String × Json)) : Prop :=
  r.room = room ∧ ∀ name, r.cells.lookup name = fields.lookup name

/-- **A record is read from its fields in any order.** -/
theorem exists_read (names : List String) (room : Nat) {moved : List (String × Json)}
    (order : moved.Perm fields) (declared : ∀ f ∈ fields, f.1 ∈ names)
    (distinct : (fields.map (·.1)).Nodup) :
    ∃ r, read names (room + 1) (.obj moved) = some r ∧ r.Holds room fields := by
  have known : moved.filter (fun f => names.contains f.1) = moved := by
    refine List.filter_eq_self.2 ?_
    intro f mem
    exact List.contains_iff_mem.2 (declared f (order.mem_iff.1 mem))
  have once : distinctNames (moved.map (·.1)) = true :=
    distinctNames_iff.2 ((order.map _).nodup_iff.2 distinct)
  refine ⟨⟨room, moved⟩, ?_, rfl, lookup_eq_of_perm order distinct⟩
  simp only [read, known, once, if_true]

theorem Holds.required (h : r.Holds room fields) :
    r.required name d = (fields.lookup name).bind (d room) := by
  rw [Row.required, h.1, h.2]

/-- **A field that may be left out** is the value that it was written from, unless it is
written as `null`. -/
theorem Holds.optional {o : Option α} {o' : Option Json} (h : r.Holds room fields)
    (found : fields.lookup name = o')
    (decoded : Option.Rel (fun a k => k ≠ .null ∧ d room k = some a) o o') :
    r.optional name d = some o := by
  cases decoded with
  | none => rw [Row.optional, h.2, found]
  | @some a k decoded =>
    simp only [Row.optional, h.1, h.2, found]
    cases k with
    | null => exact (decoded.1 rfl).elim
    | _ => simp [Decoder.option, decoded.2]

end Row

/-- Items that are read one by one are read in order. -/
theorem Decoder.items_arranged {α : Type} {f : α → Json} {d : Json → Option α}
    (h : ∀ a k, Arranges (f a) k → d k = some a) {l : List α} {items : List Json}
    (arranged : ArrangesItems (l.map f) items) : Decoder.items d items = some l := by
  induction l generalizing items with
  | nil =>
    obtain rfl : items = [] := arranged
    rfl
  | cons a rest ih =>
    obtain ⟨k, others, first, arranged, rfl⟩ := arranged
    simp [Decoder.items, h a k first, ih arranged]

/-! ### Bodies -/

/-- The text of a document without numbers is not blank. -/
theorem not_isBlank_text {j : Json} (plain : j.Plain) : Text.isBlank (text j) = false := by
  have first (c : Char) (l : List Char) (visible : Text.isBlankChar c = false) :
      (c :: l).all Text.isBlankChar = false := by
    rw [List.all_cons, visible, Bool.false_and]
  rw [Text.isBlank, text, String.toList_ofList]
  cases j with
  | num n => exact plain.elim
  | unreadable => exact plain.elim
  | bool b => cases b <;> exact first _ _ (by decide)
  | _ => rw [written]; exact first _ _ (by decide)

/-- The body that was written from a document is decoded from that document. -/
theorem decodeBody_text {α : Type} {d : Decoder α} {j : Json} {a : α} (plain : j.Plain)
    (decoded : d depthLimit j = some a) : decodeBody d (text j) = .ok a := by
  have document : decodeDocument d (text j).toList = some a := by
    rw [text, String.toList_ofList, decodeDocument, read?_written plain, Option.bind_some, decoded]
  simp only [decodeBody, not_isBlank_text plain, Bool.false_eq_true, if_false, document]

end Json

/-! ### Documents -/

namespace Document

open Json

/-- **A type whose values are read back from their documents**, in any arrangement, when
`depth` arrays and objects may be entered. -/
structure Exact (α : Type) [Document α] (depth : Nat) : Prop where
  /-- A value is written without numbers. -/
  plain : ∀ a : α, (toJson a).Plain
  /-- Every arrangement of its document is read as the value. -/
  reads : ∀ (a : α) (k : Json) (room : Nat), Arranges (toJson a) k →
    decoder (room + depth) k = some a

/-- **A type whose values are exchanged without loss.** -/
structure Faithful (α : Type) [Document α] : Prop where
  /-- The body that was written from a value is decoded to the value. -/
  reads : ∀ a : α, decodeBody decoder (text (toJson a)) = .ok a
  /-- So is a body with the fields in another order. -/
  reads_arranged : ∀ (a : α) (k : Json), Arranges (toJson a) k →
    decodeBody decoder (text k) = .ok a
  /-- Different values have different texts. -/
  text_injective : Function.Injective fun a : α => text (toJson a)

variable {α : Type} [Document α] {depth : Nat}

/-- A value that may be left out is read from any arrangement of its document, if that is
not `null`. -/
theorem Exact.optional (h : Exact α depth) (value : ∀ a : α, toJson a ≠ .null) (room : Nat)
    {o : Option α} {o' : Option Json}
    (arranged : Option.Rel (fun a k => Arranges (toJson a) k) o o') :
    Option.Rel (fun a k => k ≠ .null ∧ decoder (room + depth) k = some a) o o' := by
  cases arranged with
  | none => exact .none
  | some arranged => exact .some ⟨arranged.ne_null (value _), h.reads _ _ room arranged⟩

/-- A set is read back from the list of its members. -/
theorem Exact.set [Ranked α] (h : Exact α depth) : Exact (OrderedSet α) (depth + 1) where
  plain s := by
    refine plainItems_iff.2 ?_
    intro j mem
    obtain ⟨a, -, rfl⟩ := List.mem_map.1 mem
    exact h.plain a
  reads := by
    rintro s k room ⟨items, arranged, rfl⟩
    have members : Decoder.items (decoder (room + depth)) items = some (OrderedSet.members s) :=
      Decoder.items_arranged (fun a k => h.reads a k room) arranged
    show ((Decoder.items (decoder (room + depth)) items).map OrderedSet.ofMembers) = some s
    rw [members, Option.map_some, OrderedSet.ofMembers_members]

/-- **What is read back from documents is read back from bodies**, as long as it is not
nested deeper than a reader goes. -/
theorem Exact.faithful (h : Exact α depth) (bound : depth ≤ depthLimit) : Faithful α := by
  have arranged (a : α) (k : Json) (order : Arranges (toJson a) k) :
      decodeBody decoder (text k) = .ok a := by
    refine decodeBody_text (order.plain (h.plain a)) ?_
    -- a reader goes as deep as the document, and has room left
    rw [← Nat.sub_add_cancel bound]
    exact h.reads a k _ order
  refine ⟨fun a => arranged a _ (arranges_refl _), arranged, ?_⟩
  intro a b same
  have read := arranged a _ (arranges_refl _)
  rw [show text (toJson a) = text (toJson b) from same, arranged b _ (arranges_refl _)] at read
  exact (Except.ok.inj read).symm

end Document

end AccessHarness
