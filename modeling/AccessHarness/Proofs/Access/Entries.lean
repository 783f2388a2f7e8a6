import AccessHarness.Proofs.Access.Refinement
import Mathlib.Data.List.Induction

/-!
# What is written in a ledger

The set a ledger stands for says which actions were granted; this file is about what is written
down for it, one entry for a principal on an entity.

* `LedgerStep.Concerns`, `LedgerStep.effect` — the entries a step is about, and what it makes of
  one; `Ledger.written?_record`, it changes no other.
* `Ledger.Populated` — no principal stands without an entity; every run keeps that.
* `Ledger.Populated.ext_written?` — such a ledger is told by its entries.
* `Ledger.Canonical` — there is no entry without an action either.
* `LedgerStep.LeavesBare`, `Ledger.canonical_iff_nothing_bare` — exactly when a run ends with an
  entry without an action, and what it costs.

### What is load-bearing

**Entries know nothing of each other.**  What becomes of one is told by the steps that are about
it, in their order; all others can be left out (`Ledger.written?_recordAll_of_not_concerns`).

**A grant writes, whatever it grants.**  Revoking forgets an entry as soon as it has no action
left, also where it had none to begin with; a deleted namespace takes its entries along.  So an
entry without an action comes from one kind of step only, the grant of no action on an entity on
which nothing is held, and it stands until a step is about it that is anything else.
-/

namespace AccessHarness

namespace ActionSet

theorem isEmpty_eq_true {s : ActionSet} : s.isEmpty = true ↔ s = none := beq_iff_eq

theorem eq_none_iff {s : ActionSet} : s = none ↔ ∀ a, s.contains a = false := by
  rw [← isEmpty_eq_true, isEmpty_iff]

theorem union_eq_none_iff {s t : ActionSet} : s.union t = none ↔ s = none ∧ t = none := by
  simp only [eq_none_iff, contains_union, Bool.or_eq_false_iff, forall_and]

end ActionSet

/-! ### One entry -/

/-- A revocation leaves an action, or no entry. -/
theorem Ledger.dropActions_ne_bare (actions written : Option ActionSet) :
    dropActions actions written ≠ some .none := by
  intro bare
  cases written with
  | none => cases bare
  | some held =>
    cases actions with
    | none => cases bare
    | some gone =>
      rw [dropActions] at bare
      split at bare
      · cases bare
      · rename_i left
        exact left (ActionSet.isEmpty_eq_true.2 (Option.some.inj bare))

namespace LedgerStep

/-- **The entries a step is about.** -/
def Concerns (p : Principal) (e : EntityId) : LedgerStep → Prop
  | grant p' e' _ | revoke p' e' _ => p = p' ∧ e = e'
  | revokeAll p' => p = p'
  | namespaceDeleted ns => e.isContainedIn ns = true
  | clear => True

instance (p : Principal) (e : EntityId) : (step : LedgerStep) → Decidable (step.Concerns p e)
  | grant .. | revoke .. => inferInstanceAs (Decidable (_ ∧ _))
  | revokeAll _ => inferInstanceAs (Decidable (_ = _))
  | namespaceDeleted _ => inferInstanceAs (Decidable (_ = true))
  | clear => inferInstanceAs (Decidable True)

/-- What a step makes of an entry that it is about. -/
def effect : LedgerStep → Option ActionSet → Option ActionSet
  | grant _ _ actions => Ledger.addActions actions
  | revoke _ _ actions => Ledger.dropActions actions
  | revokeAll _ | namespaceDeleted _ | clear => fun _ => none

/-- **Only the grant of no action leaves an entry without one**, where nothing was held. -/
theorem effect_eq_bare {step : LedgerStep} {written : Option ActionSet}
    (bare : step.effect written = some ActionSet.none) :
    (∃ p e, step = grant p e .none) ∧ written.getD .none = .none := by
  cases step with
  | grant p e actions =>
    obtain ⟨before, nothing⟩ := ActionSet.union_eq_none_iff.1 (Option.some.inj bare)
    exact ⟨⟨p, e, by rw [nothing]⟩, before⟩
  | revoke p e actions => exact absurd bare (Ledger.dropActions_ne_bare actions written)
  | revokeAll p => cases bare
  | namespaceDeleted ns => cases bare
  | clear => cases bare

end LedgerStep

namespace Ledger

variable {l : Ledger} {p : Principal} {e : EntityId}

/-- **A step changes the entries it is about, and no other.** -/
theorem written?_record (step : LedgerStep) (l : Ledger) (p : Principal) (e : EntityId) :
    (step.record l).written? p e =
      if step.Concerns p e then step.effect (l.written? p e) else l.written? p e := by
  cases step with
  | grant p' e' actions =>
    rw [LedgerStep.record, written?_recordGrant]
    refine ite_congr rfl ?_ fun _ => rfl
    rintro ⟨rfl, rfl⟩
    rfl
  | revoke p' e' actions =>
    rw [LedgerStep.record, written?_recordRevoke]
    refine ite_congr rfl ?_ fun _ => rfl
    rintro ⟨rfl, rfl⟩
    rfl
  | revokeAll p' => exact written?_recordRevokeAll l p' p e
  | namespaceDeleted ns => exact written?_recordNamespaceDeleted l ns p e
  | clear => rfl

/-- An entry is what it was, if no step of a run is about it. -/
theorem written?_recordAll_of_not_concerns {steps : List LedgerStep}
    (other : ∀ step ∈ steps, ¬ step.Concerns p e) (l : Ledger) :
    (LedgerStep.recordAll steps l).written? p e = l.written? p e := by
  induction steps generalizing l with
  | nil => rfl
  | cons step rest ih =>
    rw [List.forall_mem_cons] at other
    rw [LedgerStep.recordAll_cons, ih other.2, written?_record, if_neg other.1]

/-! ### Principals without an entity -/

/-- **No principal stands without an entity.** -/
def Populated (l : Ledger) : Prop :=
  ∀ p held, l.byPrincipal.find? p = some held → held.isEmpty = false

theorem populated_empty : empty.Populated := nofun

/-- **A step leaves no principal without an entity.** -/
theorem Populated.record (h : l.Populated) (step : LedgerStep) : (step.record l).Populated := by
  intro q held found
  cases step with
  | grant p e actions =>
    rw [LedgerStep.record, recordGrant] at found
    by_cases same : q = p
    · subst same
      rw [OrderedMap.find?_alter_self, Option.some_inj] at found
      rw [← found, OrderedMap.isEmpty_eq_false_iff]
      exact ⟨e, _, OrderedMap.find?_alter_self _ _ _⟩
    · rw [OrderedMap.find?_alter_ne _ _ same] at found
      exact h q held found
  | revoke p e actions =>
    rw [LedgerStep.record, recordRevoke] at found
    by_cases same : q = p
    · subst same
      rw [OrderedMap.find?_alter_self] at found
      split at found
      · cases found
      · unfold nonEmpty? at found
        split at found
        · cases found
        · rename_i something
          rwa [← Option.some.inj found, ← Bool.not_eq_true]
    · rw [OrderedMap.find?_alter_ne _ _ same] at found
      exact h q held found
  | revokeAll p =>
    rw [LedgerStep.record, recordRevokeAll] at found
    by_cases same : q = p
    · subst same
      rw [OrderedMap.find?_erase_self] at found
      cases found
    · rw [OrderedMap.find?_erase_ne _ same] at found
      exact h q held found
  | namespaceDeleted ns =>
    rw [LedgerStep.record, recordNamespaceDeleted, OrderedMap.find?_filter,
      Option.filter_eq_some_iff] at found
    simpa using found.2
  | clear => cases found

theorem Populated.recordAll (h : l.Populated) (steps : List LedgerStep) :
    (LedgerStep.recordAll steps l).Populated := by
  induction steps generalizing l with
  | nil => exact h
  | cons step rest ih => exact ih (h.record step)

/-- A principal that is written has an entry. -/
theorem Populated.exists_written? (h : l.Populated) {held : Holdings}
    (found : l.byPrincipal.find? p = some held) : ∃ e actions, l.written? p e = some actions := by
  obtain ⟨e, actions, written⟩ := held.isEmpty_eq_false_iff.1 (h p held found)
  exact ⟨e, actions, by rw [written?, found, Option.bind_some, written]⟩

/-- **A ledger without empty principals is told by its entries.** -/
theorem Populated.ext_written? {l' : Ledger} (h : l.Populated) (h' : l'.Populated)
    (same : ∀ p e, l.written? p e = l'.written? p e) : l = l' := by
  rw [Ledger.mk.injEq]
  refine OrderedMap.ext_find? ?_
  intro p
  have same := same p
  cases found : l.byPrincipal.find? p with
  | none =>
    cases found' : l'.byPrincipal.find? p with
    | none => rfl
    | some held' =>
      obtain ⟨e, actions, written⟩ := h'.exists_written? found'
      rw [← same e, written?, found] at written
      cases written
  | some held =>
    cases found' : l'.byPrincipal.find? p with
    | none =>
      obtain ⟨e, actions, written⟩ := h.exists_written? found
      rw [same e, written?, found'] at written
      cases written
    | some held' =>
      simp only [written?, found, found', Option.bind_some] at same
      rw [OrderedMap.ext_find? same]

/-- It is empty if it has no entry. -/
theorem Populated.isEmpty_iff (h : l.Populated) :
    l.isEmpty = true ↔ ∀ p e, l.written? p e = none := by
  rw [isEmpty, OrderedMap.isEmpty_iff]
  constructor
  · intro nobody p e
    rw [written?, nobody p, Option.bind_none]
  · intro nothing p
    cases found : l.byPrincipal.find? p with
    | none => rfl
    | some held =>
      obtain ⟨e, actions, written⟩ := h.exists_written? found
      rw [nothing p e] at written
      cases written

/-! ### Entries without an action -/

/-- **The canonical form of a ledger**: no principal without an entity, no entity without an
action. -/
structure Canonical (l : Ledger) : Prop where
  populated : l.Populated
  filled : ∀ p held, l.byPrincipal.find? p = some held →
    ∀ e actions, held.find? e = some actions → actions.isEmpty = false

theorem Populated.canonical_iff (h : l.Populated) :
    l.Canonical ↔ ∀ p e, l.written? p e ≠ some .none := by
  constructor
  · intro canonical p e bare
    obtain ⟨held, found, written⟩ := Option.bind_eq_some_iff.1 bare
    have filled := canonical.filled p held found e .none written
    revert filled
    decide
  · intro filled
    refine ⟨h, ?_⟩
    intro p held found e actions written
    rw [← Bool.not_eq_true, ActionSet.isEmpty_eq_true]
    rintro rfl
    exact filled p e (by rw [written?, found, Option.bind_some, written])

/-- An entry that says nothing more than none at all. -/
theorem holds_eq_false_iff :
    (∀ a, l.holds p e a = false) ↔ (l.written? p e).getD .none = .none := by
  rw [ActionSet.eq_none_iff, ← actionsOn_eq]
  simp only [holds_eq]

/-- A ledger is empty if it holds nothing, and is not kept by entries that say nothing. -/
theorem Populated.isEmpty_iff_unheld (h : l.Populated) :
    l.isEmpty = true ↔
      (∀ p e a, l.holds p e a = false) ∧ ∀ p e, l.written? p e ≠ some .none := by
  rw [h.isEmpty_iff]
  simp only [holds_eq_false_iff]
  constructor
  · intro nothing
    exact ⟨fun p e => by rw [nothing p e, Option.getD_none], fun p e => by simp [nothing p e]⟩
  · rintro ⟨unheld, filled⟩ p e
    have unheld := unheld p e
    have filled := filled p e
    cases written : l.written? p e with
    | none => rfl
    | some actions =>
      rw [written, Option.getD_some] at unheld
      rw [written, unheld] at filled
      exact absurd rfl filled

/-- Every grant that is listed has an action, if every entry has. -/
theorem grants_acting_iff :
    (∀ g ∈ l.grants, ∃ a, g.actions.contains a = true) ↔ ∀ p e, l.written? p e ≠ some .none := by
  constructor
  · intro acting p e written
    obtain ⟨a, granted⟩ := acting ⟨p, e, .none⟩ (mem_grants_iff.2 written)
    rw [ActionSet.contains_none] at granted
    cases granted
  · intro filled g listed
    by_contra nothing
    have bare : g.actions = .none := by
      rw [ActionSet.eq_none_iff]
      intro a
      rw [← Bool.not_eq_true]
      exact fun granted => nothing ⟨a, granted⟩
    exact filled g.principal g.entity (bare ▸ mem_grants_iff.1 listed)

end Ledger

namespace LedgerStep

/-- **A run leaves an entry without an action**: it grants no action on an entity on which nothing
is held at that point, and no later step is about that entry but more grants of the kind. -/
def LeavesBare (steps : List LedgerStep) (p : Principal) (e : EntityId) : Prop :=
  ∃ earlier later, steps = earlier ++ grant p e .none :: later ∧
    (∀ a, (⟨p, e, a⟩ : Entitlement) ∉ allOnStore earlier ∅) ∧
    ∀ step ∈ later, step.Concerns p e → step = grant p e .none

end LedgerStep

namespace Ledger

variable {p : Principal} {e : EntityId}

/-- Nothing is held after a run exactly if its set of triples has nothing. -/
theorem holds_recordAll_eq_false_iff {steps : List LedgerStep} :
    (∀ a, (LedgerStep.recordAll steps empty).holds p e a = false) ↔
      ∀ a, (⟨p, e, a⟩ : Entitlement) ∉ LedgerStep.allOnStore steps ∅ := by
  refine forall_congr' fun a => ?_
  rw [← Bool.not_eq_true, holds_iff_mem, entitlements_recordAll, entitlements_empty]

/-- An entry without an action stands as long as nothing else is recorded about it. -/
theorem written?_recordAll_of_bare {l : Ledger} (bare : l.written? p e = some .none)
    {steps : List LedgerStep}
    (more : ∀ step ∈ steps, step.Concerns p e → step = .grant p e .none) :
    (LedgerStep.recordAll steps l).written? p e = some .none := by
  induction steps generalizing l with
  | nil => exact bare
  | cons step rest ih =>
    rw [List.forall_mem_cons] at more
    refine ih ?_ more.2
    rw [written?_record]
    split
    · rename_i about
      rw [more.1 about, bare]
      rfl
    · exact bare

/-- **Where an entry without an action comes from.** -/
theorem written?_recordAll_eq_bare_iff (steps : List LedgerStep) :
    (LedgerStep.recordAll steps empty).written? p e = some .none ↔
      LedgerStep.LeavesBare steps p e := by
  constructor
  · intro bare
    -- the last step that is about the entry is the grant that wrote it
    induction steps using List.reverseRecOn with
    | nil => cases bare
    | append_singleton steps step ih =>
      rw [LedgerStep.recordAll_append, LedgerStep.recordAll_cons, LedgerStep.recordAll_nil,
        written?_record] at bare
      by_cases about : step.Concerns p e
      · rw [if_pos about] at bare
        obtain ⟨⟨p', e', rfl⟩, before⟩ := LedgerStep.effect_eq_bare bare
        obtain ⟨rfl, rfl⟩ := about
        exact ⟨steps, [], rfl, holds_recordAll_eq_false_iff.1 (holds_eq_false_iff.2 before),
          List.forall_mem_nil _⟩
      · rw [if_neg about] at bare
        obtain ⟨earlier, later, rfl, nothing, more⟩ := ih bare
        refine ⟨earlier, later ++ [step], by simp, nothing, ?_⟩
        rw [List.forall_mem_append, List.forall_mem_singleton]
        exact ⟨more, fun about' => absurd about' about⟩
  · rintro ⟨earlier, later, rfl, nothing, more⟩
    rw [LedgerStep.recordAll_append, LedgerStep.recordAll_cons]
    refine written?_recordAll_of_bare ?_ more
    rw [written?_record, if_pos ⟨rfl, rfl⟩]
    have before := holds_eq_false_iff.1 (holds_recordAll_eq_false_iff.2 nothing)
    show some (((LedgerStep.recordAll earlier empty).written? p e).getD .none |>.union .none) = _
    rw [before]
    rfl

/-- **What a run leaves in its ledger.**  No principal ever stands without an entity.  An entity
stands without an action exactly where the run left it so (`LedgerStep.LeavesBare`).  The ledger is
in its canonical form exactly if the run left nothing so, and it lists grants with actions only
under the same condition; it is empty exactly if beyond that nothing is held. -/
theorem canonical_iff_nothing_bare (steps : List LedgerStep) :
    let l := LedgerStep.recordAll steps empty
    l.Populated ∧
    (∀ p e, l.written? p e = some .none ↔ LedgerStep.LeavesBare steps p e) ∧
    (l.Canonical ↔ ∀ p e, ¬ LedgerStep.LeavesBare steps p e) ∧
    (l.isEmpty = true ↔
      (∀ p e a, l.holds p e a = false) ∧ ∀ p e, ¬ LedgerStep.LeavesBare steps p e) ∧
    ((∀ g ∈ l.grants, ∃ a, g.actions.contains a = true) ↔
      ∀ p e, ¬ LedgerStep.LeavesBare steps p e) := by
  intro l
  have populated : l.Populated := populated_empty.recordAll steps
  have bare (p : Principal) (e : EntityId) :
      l.written? p e = some .none ↔ LedgerStep.LeavesBare steps p e :=
    written?_recordAll_eq_bare_iff steps
  refine ⟨populated, bare, ?_, ?_, ?_⟩ <;> simp only [← bare]
  · exact populated.canonical_iff
  · exact populated.isEmpty_iff_unheld
  · exact grants_acting_iff

/-- **A grant of nothing is written all the same**: the ledger holds nothing, is not empty, and
lists a grant without an action. -/
theorem grant_of_nothing_written :
    let l := LedgerStep.recordAll [.grant (.user "bob") (.space "a") .none] empty
    l.isEmpty = false ∧ (∀ p e a, l.holds p e a = false) ∧ ¬ l.Canonical ∧
      ∃ g ∈ l.grants, ∀ a, g.actions.contains a = false := by
  intro l
  have written : l.written? (.user "bob") (.space "a") = some .none := by
    decide
  have populated : l.Populated := populated_empty.recordAll _
  refine ⟨by decide, ?_, ?_, ⟨.user "bob", .space "a", .none⟩, mem_grants_iff.2 written,
    ActionSet.contains_none⟩
  · intro p e a
    rw [← Bool.not_eq_true, holds_iff_mem, entitlements_recordAll, entitlements_empty]
    simp [LedgerStep.onStore]
  · rw [populated.canonical_iff]
    exact fun filled => filled _ _ written

end Ledger

end AccessHarness
