import AccessHarness.Access.Ledger
import AccessHarness.Proofs.Lookup

/-!
# Plans and the ledger

A plan collects what is to be granted, a ledger what was granted.  Both add actions to what an
entity has already, so neither remembers in which order it was told, nor in how many pieces.

* `Holdings.addAll` — what is held after actions on some entities were added, one after the other.
* `SaysSame` — two lists that name the same entities and give the same actions on each.
* `PrivilegePlan.ofSteps_perm`, `PrivilegePlan.mem_toList_ofSteps` — a plan does not depend on the
  order of its steps, and has one entry for each entity, with the union of what was planned.
* `Ledger.recordAll_ofSteps` — to record a plan entry by entry is to record its steps, in any order.

### What is load-bearing

Holdings are told by two questions: which entities they know, and which actions they allow
(`Holdings.ext_allows`).  What a list adds is answered by membership in it alone
(`Holdings.contains_addAll`, `Holdings.allows_addAll`), so lists that say the same add the same,
and no two additions ever have to be exchanged by hand.

**An entity without actions is an entry all the same**: a plan that names it grants it the empty
set, which is sent and recorded like any other.  This is why `SaysSame` asks for the entities apart
from what is given on them.
-/

namespace AccessHarness

/-- **Two lists that say the same**: they name the same entities, and give the same on each. -/
structure SaysSame (given given' : List (EntityId × ActionSet)) : Prop where
  named : ∀ e, (∃ x ∈ given, x.1 = e) ↔ ∃ x ∈ given', x.1 = e
  gives : ∀ e a, (∃ x ∈ given, x.1 = e ∧ x.2.contains a = true) ↔
    ∃ x ∈ given', x.1 = e ∧ x.2.contains a = true

namespace SaysSame

variable {given given' : List (EntityId × ActionSet)}

theorem of_perm (same : given.Perm given') : SaysSame given given' where
  named e := by simp only [same.mem_iff]
  gives e a := by simp only [same.mem_iff]

theorem eq_nil_iff (h : SaysSame given given') : given = [] ↔ given' = [] := by
  have named := h.named
  constructor
  · rintro rfl
    refine List.eq_nil_iff_forall_not_mem.2 ?_
    intro x mem
    obtain ⟨y, absent, -⟩ := (named x.1).2 ⟨x, mem, rfl⟩
    cases absent
  · rintro rfl
    refine List.eq_nil_iff_forall_not_mem.2 ?_
    intro x mem
    obtain ⟨y, absent, -⟩ := (named x.1).1 ⟨x, mem, rfl⟩
    cases absent

end SaysSame

namespace Holdings

/-- Whether an action is among those held on an entity. -/
def allows (h : Holdings) (e : EntityId) (a : Action) : Bool :=
  ((h.find? e).getD ActionSet.none).contains a

/-- Add actions on some entities, one after the other. -/
def addAll (h : Holdings) (given : List (EntityId × ActionSet)) : Holdings :=
  given.foldl (fun h x => h.alter x.1 (Ledger.addActions x.2)) h

@[simp] theorem addAll_nil (h : Holdings) : h.addAll [] = h := rfl

@[simp] theorem addAll_cons (h : Holdings) (x : EntityId × ActionSet)
    (rest : List (EntityId × ActionSet)) :
    h.addAll (x :: rest) = Holdings.addAll (h.alter x.1 (Ledger.addActions x.2)) rest := rfl

/-- **Holdings are told by the entities they know and the actions they allow.** -/
theorem ext_allows {h h' : Holdings}
    (known : ∀ e, OrderedMap.contains h e = true ↔ OrderedMap.contains h' e = true)
    (allowed : ∀ e a, h.allows e a = true ↔ h'.allows e a = true) : h = h' := by
  refine OrderedMap.ext_find? ?_
  intro e
  have known := known e
  have allowed := allowed e
  unfold OrderedMap.contains at known
  unfold allows at allowed
  cases found : h.find? e with
  | none =>
    rw [found] at known
    cases found' : h'.find? e with
    | none => rfl
    | some held' => simp [found'] at known
  | some held =>
    rw [found] at known allowed
    cases found' : h'.find? e with
    | none => simp [found'] at known
    | some held' =>
      rw [found'] at allowed
      have same : held = held' := ActionSet.ext_contains fun a => Bool.eq_iff_iff.2 (allowed a)
      rw [same]

theorem contains_alter_addActions (h : Holdings) (x : EntityId × ActionSet) (e : EntityId) :
    OrderedMap.contains (h.alter x.1 (Ledger.addActions x.2)) e = true ↔
      x.1 = e ∨ OrderedMap.contains h e = true := by
  unfold OrderedMap.contains
  by_cases same : e = x.1
  · simp [same, Ledger.addActions]
  · rw [OrderedMap.find?_alter_ne h _ same]
    exact (or_iff_right (Ne.symm same)).symm

theorem allows_alter_addActions (h : Holdings) (x : EntityId × ActionSet) (e : EntityId)
    (a : Action) :
    Holdings.allows (h.alter x.1 (Ledger.addActions x.2)) e a = true ↔
      (x.1 = e ∧ x.2.contains a = true) ∨ h.allows e a = true := by
  unfold allows
  by_cases same : e = x.1
  · simp [same, Ledger.addActions, or_comm]
  · have other : ¬ (x.1 = e ∧ x.2.contains a = true) := fun both => same both.1.symm
    rw [OrderedMap.find?_alter_ne h _ same]
    exact (or_iff_right other).symm

/-- **What is known after an addition** was known before or is named in it. -/
theorem contains_addAll (h : Holdings) (given : List (EntityId × ActionSet)) (e : EntityId) :
    OrderedMap.contains (h.addAll given) e = true ↔
      (∃ x ∈ given, x.1 = e) ∨ OrderedMap.contains h e = true := by
  induction given generalizing h with
  | nil => simp
  | cons x rest ih =>
    rw [addAll_cons, ih, contains_alter_addActions, List.exists_mem_cons_iff, or_assoc,
      or_left_comm]

/-- **What is allowed after an addition** was allowed before or is given by it. -/
theorem allows_addAll (h : Holdings) (given : List (EntityId × ActionSet)) (e : EntityId)
    (a : Action) :
    (h.addAll given).allows e a = true ↔
      (∃ x ∈ given, x.1 = e ∧ x.2.contains a = true) ∨ h.allows e a = true := by
  induction given generalizing h with
  | nil => simp
  | cons x rest ih =>
    rw [addAll_cons, ih, allows_alter_addActions, List.exists_mem_cons_iff, or_assoc,
      or_left_comm]

/-- **Lists that say the same add the same.** -/
theorem addAll_congr (h : Holdings) {given given' : List (EntityId × ActionSet)}
    (same : SaysSame given given') : h.addAll given = h.addAll given' := by
  refine ext_allows ?_ ?_
  · intro e
    rw [contains_addAll, contains_addAll, same.named]
  · intro e a
    rw [allows_addAll, allows_addAll, same.gives]

/-- What is allowed stands in an entry. -/
theorem allows_iff_exists_mem {h : Holdings} {e : EntityId} {a : Action} :
    h.allows e a = true ↔ ∃ x ∈ h.entries, x.1 = e ∧ x.2.contains a = true := by
  unfold allows
  constructor
  · intro allowed
    cases found : h.find? e with
    | none =>
      rw [found] at allowed
      simp at allowed
    | some held =>
      rw [found] at allowed
      exact ⟨(e, held), h.mem_entries_iff.2 found, rfl, allowed⟩
  · rintro ⟨⟨e', held⟩, mem, rfl, allowed⟩
    rw [h.mem_entries_iff.1 mem]
    exact allowed

/-- **Holdings say what they were made of.** -/
theorem saysSame_entries (given : List (EntityId × ActionSet)) :
    SaysSame (Holdings.addAll OrderedMap.empty given).entries given where
  named e := by
    have keyed : (∃ x ∈ (Holdings.addAll OrderedMap.empty given).entries, x.1 = e) ↔
        e ∈ (Holdings.addAll OrderedMap.empty given).keys := List.mem_map.symm
    rw [keyed, OrderedMap.mem_keys_iff, contains_addAll]
    simp [OrderedMap.contains]
  gives e a := by
    rw [← allows_iff_exists_mem, allows_addAll]
    simp [allows]

end Holdings

namespace PrivilegePlan

/-- What the steps of a plan give. -/
def given (steps : List (EntityId × List Action)) : List (EntityId × ActionSet) :=
  steps.map fun x => (x.1, ActionSet.ofList x.2)

theorem entries_ofSteps (steps : List (EntityId × List Action)) :
    (ofSteps steps).entries = Holdings.addAll OrderedMap.empty (given steps) := by
  have planned (p : PrivilegePlan) : (steps.foldl (fun p x => p.plan x.1 x.2) p).entries =
      Holdings.addAll p.entries (given steps) := by
    induction steps generalizing p with
    | nil => rfl
    | cons x rest ih => exact ih (p.plan x.1 x.2)
  exact planned empty

/-- **A plan does not depend on the order of its steps.** -/
theorem ofSteps_perm {steps steps' : List (EntityId × List Action)} (same : steps.Perm steps') :
    ofSteps steps = ofSteps steps' := by
  have entries : (ofSteps steps).entries = (ofSteps steps').entries := by
    rw [entries_ofSteps, entries_ofSteps]
    exact Holdings.addAll_congr _ (.of_perm (same.map _))
  calc ofSteps steps = ⟨(ofSteps steps).entries⟩ := rfl
    _ = ⟨(ofSteps steps').entries⟩ := by rw [entries]

/-- **A plan has one entry for each entity that is named, with the union of its actions.** -/
theorem mem_toList_ofSteps {steps : List (EntityId × List Action)} {e : EntityId}
    {actions : ActionSet} :
    (e, actions) ∈ (ofSteps steps).toList ↔
      (∃ x ∈ steps, x.1 = e) ∧
        ∀ a, actions.contains a = true ↔ ∃ x ∈ steps, x.1 = e ∧ a ∈ x.2 := by
  have named : OrderedMap.contains (ofSteps steps).entries e = true ↔ ∃ x ∈ steps, x.1 = e := by
    rw [entries_ofSteps, Holdings.contains_addAll]
    simp [OrderedMap.contains, given]
  have allowed (a : Action) :
      Holdings.allows (ofSteps steps).entries e a = true ↔ ∃ x ∈ steps, x.1 = e ∧ a ∈ x.2 := by
    rw [entries_ofSteps, Holdings.allows_addAll]
    simp [Holdings.allows, given]
  rw [toList, OrderedMap.mem_entries_iff, ← named]
  simp only [← allowed]
  unfold OrderedMap.contains Holdings.allows
  cases (ofSteps steps).entries.find? e with
  | none => simp
  | some planned =>
    rw [Option.some_inj]
    constructor
    · rintro rfl
      exact ⟨rfl, fun _ => Iff.rfl⟩
    · rintro ⟨-, same⟩
      exact ActionSet.ext_contains fun a => (Bool.eq_iff_iff.2 (same a)).symm

end PrivilegePlan

namespace Ledger

/-- Record grants to one principal, one after the other. -/
def recordAll (l : Ledger) (p : Principal) (given : List (EntityId × ActionSet)) : Ledger :=
  given.foldl (fun l x => l.recordGrant p x.1 x.2) l

@[simp] theorem recordAll_nil (l : Ledger) (p : Principal) : l.recordAll p [] = l := rfl

@[simp] theorem recordAll_cons (l : Ledger) (p : Principal) (x : EntityId × ActionSet)
    (rest : List (EntityId × ActionSet)) :
    l.recordAll p (x :: rest) = (l.recordGrant p x.1 x.2).recordAll p rest := rfl

/-- **Grants to a principal add to what that principal holds**; without a grant nothing is
written. -/
theorem recordAll_eq (l : Ledger) (p : Principal) {given : List (EntityId × ActionSet)}
    (something : given ≠ []) :
    l.recordAll p given =
      ⟨l.byPrincipal.alter p fun held =>
        some (Holdings.addAll (held.getD OrderedMap.empty) given)⟩ := by
  induction given generalizing l with
  | nil => exact absurd rfl something
  | cons x rest ih =>
    rw [recordAll_cons]
    cases rest with
    | nil => rfl
    | cons y rest =>
      rw [ih _ (List.cons_ne_nil y rest), Ledger.mk.injEq]
      refine OrderedMap.ext_find? ?_
      intro q
      unfold recordGrant
      by_cases same : q = p
      · simp [same]
      · simp [OrderedMap.find?_alter_ne _ _ same]

theorem recordAll_congr (l : Ledger) (p : Principal) {given given' : List (EntityId × ActionSet)}
    (same : SaysSame given given') : l.recordAll p given = l.recordAll p given' := by
  by_cases nothing : given = []
  · rw [nothing, same.eq_nil_iff.1 nothing]
  · have added (h : Holdings) : h.addAll given = h.addAll given' := h.addAll_congr same
    rw [recordAll_eq l p nothing, recordAll_eq l p (mt same.eq_nil_iff.2 nothing)]
    simp only [added]

/-- **To record a plan is to record its steps**, in any order. -/
theorem recordAll_ofSteps (l : Ledger) (p : Principal)
    {steps steps' : List (EntityId × List Action)} (same : steps.Perm steps') :
    l.recordAll p (PrivilegePlan.ofSteps steps).toList =
      l.recordAll p (PrivilegePlan.given steps') := by
  rw [PrivilegePlan.ofSteps_perm same, PrivilegePlan.toList, PrivilegePlan.entries_ofSteps]
  exact l.recordAll_congr p (Holdings.saysSame_entries _)

end Ledger

end AccessHarness
