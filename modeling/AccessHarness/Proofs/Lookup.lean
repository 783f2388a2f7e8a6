import AccessHarness.OrderedMap
import Mathlib.Data.List.Sort
import Mathlib.Data.Option.Basic

/-!
# What an ordered map holds

`OrderedMap.find?` answers for one key; what is enumerated are the entries.  This file ties
the two together, and says what a set of keys holds after its members were added one by one.

* `OrderedMap.mem_entries_iff`, `OrderedMap.mem_keys_iff` — a binding is enumerated exactly if it
  is found, and a key if it is bound.
* `OrderedMap.ext_find?` — maps with the same bindings are the same map.
* `OrderedMap.find?_filter`, `OrderedMap.find?_mapValues` — lookup in a map made from another.
* `OrderedMap.ofList_eq_of_perm` — a map is made of its bindings, in whatever order they come.
* `OrderedSet.mem_members_iff`, `OrderedSet.contains_ofMembers` — the same for sets;
  `OrderedSet.ofMembers_members`, a set is made of its members.

Everything rests on the order of the keys: a search that stopped at the first greater key has
missed nothing behind it.
-/

namespace AccessHarness

open Ranked (Before)

namespace OrderedMap

variable {κ ν μ : Type} [Ranked κ]

/-- In a list of increasing keys a search finds exactly what stands in it. -/
theorem lookup_eq_some_iff {k : κ} {v : ν} {l : List (κ × ν)}
    (h : l.Pairwise fun x y => Before x.1 y.1) : lookup k l = some v ↔ (k, v) ∈ l := by
  induction l with
  | nil => simp [lookup]
  | cons x rest ih =>
    obtain ⟨k', v'⟩ := x
    rw [List.pairwise_cons] at h
    obtain ⟨first, h⟩ := h
    rw [lookup, List.mem_cons]
    by_cases hlt : Before k k'
    · have absent : (k, v) ∉ rest := by
        intro mem
        exact (hlt.trans (first _ mem)).irrefl
      simp [hlt, hlt.ne, absent]
    · by_cases hgt : Before k' k
      · simp [hlt, hgt, hgt.ne.symm, ih h]
      · have same : k = k' := Ranked.eq_of_not_before hlt hgt
        subst same
        have absent : (k, v) ∉ rest := by
          intro mem
          exact (first _ mem).irrefl
        simp [hlt, absent, eq_comm]

variable (m : OrderedMap κ ν)

/-- **A binding is enumerated exactly if it is found.** -/
theorem mem_entries_iff {k : κ} {v : ν} : (k, v) ∈ m.entries ↔ m.find? k = some v :=
  (lookup_eq_some_iff m.increasing).symm

/-- **A key is enumerated exactly if it is bound.** -/
theorem mem_keys_iff {k : κ} : k ∈ m.keys ↔ m.contains k = true := by
  unfold keys contains
  rw [List.mem_map, Option.isSome_iff_exists]
  constructor
  · rintro ⟨⟨k', v⟩, mem, rfl⟩
    exact ⟨v, m.mem_entries_iff.1 mem⟩
  · rintro ⟨v, found⟩
    exact ⟨(k, v), m.mem_entries_iff.2 found, rfl⟩

/-- **Maps with the same bindings are the same map**: there is one increasing order of them. -/
theorem ext_find? {m n : OrderedMap κ ν} (h : ∀ k, m.find? k = n.find? k) : m = n := by
  have irrefl : Std.Irrefl fun x y : κ × ν => Before x.1 y.1 := ⟨fun x => Before.irrefl x.1⟩
  have antisymm : Std.Antisymm fun x y : κ × ν => Before x.1 y.1 :=
    ⟨fun _ _ before after => absurd after before.asymm⟩
  refine ext_entries (m.increasing.eq_of_mem_iff n.increasing ?_)
  rintro ⟨k, v⟩
  rw [mem_entries_iff, mem_entries_iff, h]

theorem isEmpty_iff : m.isEmpty = true ↔ ∀ k, m.find? k = none := by
  rw [isEmpty, List.isEmpty_iff, List.eq_nil_iff_forall_not_mem]
  constructor
  · intro nothing k
    refine Option.eq_none_iff_forall_ne_some.2 ?_
    intro v found
    exact nothing (k, v) (m.mem_entries_iff.2 found)
  · rintro nothing ⟨k, v⟩ mem
    have found := m.mem_entries_iff.1 mem
    rw [nothing k] at found
    cases found

theorem isEmpty_eq_false_iff : m.isEmpty = false ↔ ∃ k v, m.find? k = some v := by
  rw [← Bool.not_eq_true, isEmpty_iff, not_forall]
  exact exists_congr fun k => Option.ne_none_iff_exists'

theorem find?_filter (p : κ → ν → Bool) (k : κ) :
    (m.filter p).find? k = (m.find? k).filter (p k) := by
  ext v
  rw [← mem_entries_iff, filter, List.mem_filter, mem_entries_iff, Option.filter_eq_some_iff]

theorem find?_mapValues (f : ν → μ) (k : κ) :
    (m.mapValues f).find? k = (m.find? k).map f := by
  ext v
  rw [← mem_entries_iff, mapValues, List.mem_map, Option.map_eq_some_iff]
  constructor
  · rintro ⟨⟨k', w⟩, mem, same⟩
    cases same
    exact ⟨w, m.mem_entries_iff.1 mem, rfl⟩
  · rintro ⟨w, found, rfl⟩
    exact ⟨(k, w), m.mem_entries_iff.2 found, rfl⟩

/-- A binding of a list of different keys is found in the map of that list. -/
theorem find?_ofList_eq_some_iff {l : List (κ × ν)} (distinct : (l.map (·.1)).Nodup) {k : κ}
    {v : ν} : (ofList l).find? k = some v ↔ (k, v) ∈ l := by
  have bound (m : OrderedMap κ ν) :
      (l.foldl (fun m x => m.insert x.1 x.2) m).find? k = some v ↔
        (k, v) ∈ l ∨ k ∉ l.map (·.1) ∧ m.find? k = some v := by
    induction l generalizing m with
    | nil => simp
    | cons x rest ih =>
      obtain ⟨k', v'⟩ := x
      rw [List.map_cons, List.nodup_cons] at distinct
      rw [List.foldl_cons, ih distinct.2, List.mem_cons, List.map_cons, List.mem_cons,
        Prod.mk.injEq]
      by_cases same : k = k'
      · subst same
        have once : (k, v) ∉ rest := fun mem => distinct.1 (List.mem_map.2 ⟨_, mem, rfl⟩)
        simp [once, distinct.1, eq_comm]
      · rw [find?_insert_ne _ _ same]
        tauto
  rw [ofList, bound]
  simp

/-- **A map is made of its bindings**, in whatever order they come. -/
theorem ofList_eq_of_perm {l : List (κ × ν)} (order : l.Perm m.entries) : ofList l = m := by
  have distinct : (l.map (·.1)).Nodup := by
    rw [(order.map _).nodup_iff, List.Nodup, List.pairwise_map]
    exact m.increasing.imp fun before => before.ne
  refine ext_find? ?_
  intro k
  ext v
  rw [find?_ofList_eq_some_iff distinct, order.mem_iff, mem_entries_iff]

end OrderedMap

namespace OrderedSet

variable {κ : Type} [Ranked κ]

/-- **A member is enumerated exactly if the set contains it.** -/
theorem mem_members_iff (s : OrderedSet κ) {k : κ} :
    k ∈ OrderedSet.members s ↔ OrderedMap.contains s k = true := OrderedMap.mem_keys_iff s

theorem contains_add (s : OrderedSet κ) (k k' : κ) :
    OrderedMap.contains (add s k) k' = true ↔ k' = k ∨ OrderedMap.contains s k' = true := by
  unfold add OrderedMap.contains
  by_cases same : k' = k
  · subst same
    simp
  · rw [OrderedMap.find?_insert_ne _ _ same]
    simp [same]

/-- The set of the members of a list contains exactly these. -/
theorem contains_ofMembers (l : List κ) (k : κ) :
    OrderedMap.contains (ofMembers l) k = true ↔ k ∈ l := by
  have added (s : OrderedSet κ) :
      OrderedMap.contains (l.foldl add s) k = true ↔ k ∈ l ∨ OrderedMap.contains s k = true := by
    induction l generalizing s with
    | nil => simp
    | cons x rest ih =>
      rw [List.foldl_cons, ih, contains_add, List.mem_cons]
      rw [or_assoc, or_left_comm]
  rw [ofMembers, added]
  simp [OrderedMap.contains]

/-- **A set is made of its members.** -/
theorem ofMembers_members (s : OrderedSet κ) : ofMembers (members s) = s := by
  refine OrderedMap.ext_find? ?_
  intro k
  -- a set binds a key to nothing but the one value there is
  have bound : OrderedMap.contains (ofMembers (members s)) k = OrderedMap.contains s k := by
    rw [Bool.eq_iff_iff, contains_ofMembers, mem_members_iff]
  revert bound
  unfold OrderedMap.contains
  cases OrderedMap.find? (ofMembers (members s)) k <;> cases OrderedMap.find? s k <;> simp

end OrderedSet

end AccessHarness
