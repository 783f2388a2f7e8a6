/-!
# Maps kept in key order

Everything the harness enumerates (grants, privileges, plan entries, properties of a
document) is enumerated in one fixed order, so a finite map is stored as the list of
its bindings in strictly increasing key order.

* `Ranked` gives a type its order: a key is compared through its *rank*, a list of
  strings compared lexicographically, and equal ranks mean equal keys.
* `OrderedMap κ ν` is the list of bindings with the proof that its keys increase.
* `OrderedMap.alter` is the one primitive that changes a binding; `insert`, `erase`
  and `modify` are instances of it.

### What is load-bearing

The order is part of the type.  Two maps with the same bindings are therefore *equal*
(`OrderedMap.ext_find?`), which is what makes "the same map whatever the order of the
updates" a statement about `=`.  The two lookup laws `find?_alter_self` and
`find?_alter_ne` are unconditional; nothing downstream unfolds `alterEntries`.
-/

namespace AccessHarness

/-- **Order through a rank.**  Keys are compared as lists of strings, first component
first; a string is compared by the code points of its characters, which is also the
order of its encoded bytes. -/
class Ranked (κ : Type) where
  /-- The components a key is compared by, most significant first. -/
  rank : κ → List String
  /-- Keys of one rank are the same key. -/
  rank_injective : ∀ {a b : κ}, rank a = rank b → a = b

export Ranked (rank)

instance : Ranked String where
  rank s := [s]
  rank_injective h := by simpa using h

namespace Ranked

variable {κ : Type} [Ranked κ] {a b c : κ}

/-- `a` stands before `b` in every enumeration. -/
def Before (a b : κ) : Prop := rank a < rank b

instance (a b : κ) : Decidable (Before a b) := inferInstanceAs (Decidable (rank a < rank b))

theorem Before.irrefl (a : κ) : ¬ Before a a := List.lt_irrefl _

theorem Before.trans (h : Before a b) (h' : Before b c) : Before a c := List.lt_trans h h'

theorem Before.asymm (h : Before a b) : ¬ Before b a := List.lt_asymm h

theorem Before.ne (h : Before a b) : a ≠ b := fun e => Before.irrefl b (e ▸ h)

/-- Of two different keys one stands before the other. -/
theorem eq_of_not_before (h : ¬ Before a b) (h' : ¬ Before b a) : a = b :=
  rank_injective (List.le_antisymm h' h)

end Ranked

open Ranked (Before)

/-- **A finite map in key order**: its bindings, keys strictly increasing. -/
structure OrderedMap (κ ν : Type) [Ranked κ] where
  /-- The bindings, smallest key first. -/
  entries : List (κ × ν)
  /-- No key stands twice and the keys increase. -/
  increasing : entries.Pairwise (fun x y => Before x.1 y.1)

namespace OrderedMap

variable {κ ν μ : Type} [Ranked κ]

theorem ext_entries {m n : OrderedMap κ ν} (h : m.entries = n.entries) : m = n := by
  cases m; cases n; cases h; rfl

instance [DecidableEq κ] [DecidableEq ν] : DecidableEq (OrderedMap κ ν) := fun m n =>
  if h : m.entries = n.entries then isTrue (ext_entries h)
  else isFalse fun e => h (e ▸ rfl)

/-- The map without bindings. -/
def empty : OrderedMap κ ν := ⟨[], .nil⟩

instance : Inhabited (OrderedMap κ ν) := ⟨empty⟩

instance : EmptyCollection (OrderedMap κ ν) := ⟨empty⟩

/-- Whether there is no binding. -/
def isEmpty (m : OrderedMap κ ν) : Bool := m.entries.isEmpty

/-- The keys in increasing order. -/
def keys (m : OrderedMap κ ν) : List κ := m.entries.map (·.1)

/-- The value bound to `k` in a list of increasing keys: the search ends at the first
key that is not before `k`. -/
def lookup (k : κ) : List (κ × ν) → Option ν
  | [] => none
  | (k', v) :: rest =>
    if Before k k' then none
    else if Before k' k then lookup k rest
    else some v

/-- The value bound to a key. -/
def find? (m : OrderedMap κ ν) (k : κ) : Option ν := lookup k m.entries

/-- Whether a key is bound. -/
def contains (m : OrderedMap κ ν) (k : κ) : Bool := (m.find? k).isSome

/-- Put `f` of the present value in place of the binding of `k`; `none` means unbound,
on either side. -/
def alterEntries (k : κ) (f : Option ν → Option ν) : List (κ × ν) → List (κ × ν)
  | [] => ((f none).map fun v => (k, v)).toList
  | (k', v) :: rest =>
    if Before k k' then ((f none).map fun v => (k, v)).toList ++ (k', v) :: rest
    else if Before k' k then (k', v) :: alterEntries k f rest
    else ((f (some v)).map fun v => (k, v)).toList ++ rest

/-- A key of the altered list is the altered one or was there before. -/
theorem mem_alterEntries {k : κ} {f : Option ν → Option ν} {l : List (κ × ν)} {x : κ × ν}
    (h : x ∈ alterEntries k f l) : x.1 = k ∨ x ∈ l := by
  induction l with
  | nil =>
    simp only [alterEntries, Option.mem_toList, Option.map_eq_some_iff] at h
    obtain ⟨v, -, rfl⟩ := h
    exact .inl rfl
  | cons y rest ih =>
    obtain ⟨k', v⟩ := y
    simp only [alterEntries] at h
    split at h
    · simp only [List.mem_append, Option.mem_toList, Option.map_eq_some_iff] at h
      rcases h with ⟨w, -, rfl⟩ | h
      · exact .inl rfl
      · exact .inr h
    · split at h
      · simp only [List.mem_cons] at h ⊢
        rcases h with h | h
        · exact .inr (.inl h)
        · exact (ih h).imp id .inr
      · simp only [List.mem_append, Option.mem_toList, Option.map_eq_some_iff] at h
        rcases h with ⟨w, -, rfl⟩ | h
        · exact .inl rfl
        · exact .inr (List.mem_cons_of_mem _ h)

/-- Altering one binding keeps the keys increasing. -/
theorem alterEntries_increasing (k : κ) (f : Option ν → Option ν) {l : List (κ × ν)}
    (h : l.Pairwise fun x y => Before x.1 y.1) :
    (alterEntries k f l).Pairwise fun x y => Before x.1 y.1 := by
  induction l with
  | nil => simp only [alterEntries]; cases f none <;> simp
  | cons y rest ih =>
    obtain ⟨k', v⟩ := y
    rw [List.pairwise_cons] at h
    obtain ⟨hk, hr⟩ := h
    simp only [alterEntries]
    split
    · rename_i hlt
      have tail : ((k', v) :: rest).Pairwise fun x y => Before x.1 y.1 :=
        List.pairwise_cons.2 ⟨hk, hr⟩
      cases f none with
      | none => exact tail
      | some w =>
        refine List.pairwise_cons.2 ⟨fun z hz => ?_, tail⟩
        rcases List.mem_cons.1 hz with rfl | hz
        · exact hlt
        · exact hlt.trans (hk z hz)
    · split
      · rename_i hgt
        refine List.pairwise_cons.2 ⟨fun z hz => ?_, ih hr⟩
        rcases mem_alterEntries hz with hz | hz
        · exact hz ▸ hgt
        · exact hk z hz
      · rename_i h1 h2
        have e : k = k' := Ranked.eq_of_not_before h1 h2
        subst e
        cases f (some v) with
        | none => exact hr
        | some w => exact List.pairwise_cons.2 ⟨hk, hr⟩

/-- **The one update.**  The binding of `k` becomes `f` of the present one. -/
def alter (m : OrderedMap κ ν) (k : κ) (f : Option ν → Option ν) : OrderedMap κ ν :=
  ⟨alterEntries k f m.entries, alterEntries_increasing k f m.increasing⟩

/-- Bind `k` to `v`, whatever it was bound to. -/
def insert (m : OrderedMap κ ν) (k : κ) (v : ν) : OrderedMap κ ν := m.alter k fun _ => some v

/-- Unbind `k`. -/
def erase (m : OrderedMap κ ν) (k : κ) : OrderedMap κ ν := m.alter k fun _ => none

/-- The bindings that satisfy a condition. -/
def filter (m : OrderedMap κ ν) (p : κ → ν → Bool) : OrderedMap κ ν :=
  ⟨m.entries.filter fun x => p x.1 x.2, m.increasing.filter _⟩

/-- Change every value, keep every key. -/
def mapValues (m : OrderedMap κ ν) (f : ν → μ) : OrderedMap κ μ :=
  ⟨m.entries.map fun x => (x.1, f x.2), List.pairwise_map.2 m.increasing⟩

/-- The map of a list of bindings; the last binding of a key wins. -/
def ofList (l : List (κ × ν)) : OrderedMap κ ν :=
  l.foldl (fun m x => m.insert x.1 x.2) empty

/-! ### Lookup laws -/

theorem lookup_eq_none_of_before {k : κ} {l : List (κ × ν)}
    (h : ∀ x ∈ l, Before k x.1) : lookup k l = none := by
  cases l with
  | nil => rfl
  | cons x rest => simp [lookup, h x List.mem_cons_self]

@[simp] theorem find?_empty (k : κ) : (empty : OrderedMap κ ν).find? k = none := rfl

theorem lookup_alterEntries_self (k : κ) (f : Option ν → Option ν) {l : List (κ × ν)}
    (h : l.Pairwise fun x y => Before x.1 y.1) :
    lookup k (alterEntries k f l) = f (lookup k l) := by
  induction l with
  | nil => cases hf : f none <;> simp [alterEntries, lookup, hf, Before.irrefl]
  | cons y rest ih =>
    obtain ⟨k', v⟩ := y
    rw [List.pairwise_cons] at h
    simp only [alterEntries, lookup]
    by_cases h1 : Before k k'
    · simp only [h1, if_true]
      cases hf : f none with
      | none => simp [lookup, h1]
      | some w => simp [lookup, Before.irrefl]
    · by_cases h2 : Before k' k
      · simp [h1, h2, lookup, ih h.2]
      · simp only [h1, h2, if_false]
        have e : k = k' := Ranked.eq_of_not_before h1 h2
        subst e
        cases f (some v) with
        | none => exact lookup_eq_none_of_before h.1
        | some w => simp [lookup, Before.irrefl]

theorem lookup_alterEntries_ne {k k' : κ} (f : Option ν → Option ν) (hne : k' ≠ k)
    {l : List (κ × ν)} (h : l.Pairwise fun x y => Before x.1 y.1) :
    lookup k' (alterEntries k f l) = lookup k' l := by
  have split_ne : Before k' k ∨ Before k k' := by
    by_cases h1 : Before k' k
    · exact .inl h1
    · by_cases h2 : Before k k'
      · exact .inr h2
      · exact absurd (Ranked.eq_of_not_before h1 h2) hne
  induction l with
  | nil =>
    simp only [alterEntries, lookup]
    cases f none with
    | none => rfl
    | some w =>
      rcases split_ne with h1 | h1
      · simp [lookup, h1]
      · simp [lookup, h1, h1.asymm]
  | cons y rest ih =>
    obtain ⟨k₁, v⟩ := y
    rw [List.pairwise_cons] at h
    simp only [alterEntries]
    by_cases h1 : Before k k₁
    · simp only [h1, if_true]
      cases f none with
      | none => rfl
      | some w =>
        rcases split_ne with h3 | h3
        · simp [lookup, h3, h3.trans h1]
        · simp [lookup, h3, h3.asymm]
    · by_cases h2 : Before k₁ k
      · simp [h1, h2, lookup, ih h.2]
      · simp only [h1, h2, if_false]
        have e : k = k₁ := Ranked.eq_of_not_before h1 h2
        subst e
        have skip : lookup k' ((k, v) :: rest) = lookup k' rest := by
          rcases split_ne with h3 | h3
          · rw [lookup_eq_none_of_before fun x hx => h3.trans (h.1 x hx)]
            simp [lookup, h3]
          · simp [lookup, h3, h3.asymm]
        rw [skip]
        cases f (some v) with
        | none => rfl
        | some w =>
          rcases split_ne with h3 | h3
          · rw [lookup_eq_none_of_before fun x hx => h3.trans (h.1 x hx)]
            simp [lookup, h3]
          · simp [lookup, h3, h3.asymm]

@[simp] theorem find?_alter_self (m : OrderedMap κ ν) (k : κ) (f : Option ν → Option ν) :
    (m.alter k f).find? k = f (m.find? k) :=
  lookup_alterEntries_self k f m.increasing

theorem find?_alter_ne (m : OrderedMap κ ν) {k k' : κ} (f : Option ν → Option ν)
    (h : k' ≠ k) : (m.alter k f).find? k' = m.find? k' :=
  lookup_alterEntries_ne f h m.increasing

@[simp] theorem find?_insert_self (m : OrderedMap κ ν) (k : κ) (v : ν) :
    (m.insert k v).find? k = some v := find?_alter_self m k _

theorem find?_insert_ne (m : OrderedMap κ ν) {k k' : κ} (v : ν) (h : k' ≠ k) :
    (m.insert k v).find? k' = m.find? k' := find?_alter_ne m _ h

@[simp] theorem find?_erase_self (m : OrderedMap κ ν) (k : κ) :
    (m.erase k).find? k = none := find?_alter_self m k _

theorem find?_erase_ne (m : OrderedMap κ ν) {k k' : κ} (h : k' ≠ k) :
    (m.erase k).find? k' = m.find? k' := find?_alter_ne m _ h

end OrderedMap

/-- A finite set in order: a map whose values say nothing. -/
abbrev OrderedSet (κ : Type) [Ranked κ] := OrderedMap κ Unit

namespace OrderedSet

variable {κ : Type} [Ranked κ]

/-- Add a member. -/
def add (s : OrderedSet κ) (k : κ) : OrderedSet κ := OrderedMap.insert s k ()

/-- The set of the members of a list. -/
def ofMembers (l : List κ) : OrderedSet κ := l.foldl add OrderedMap.empty

/-- The members, smallest first. -/
def members (s : OrderedSet κ) : List κ := OrderedMap.keys s

/-- The members that satisfy a condition. -/
def keep (s : OrderedSet κ) (p : κ → Bool) : OrderedSet κ := OrderedMap.filter s fun k _ => p k

end OrderedSet

end AccessHarness
