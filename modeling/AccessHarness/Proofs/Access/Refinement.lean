import AccessHarness.Access.Verdict
import AccessHarness.Proofs.Access.Store

/-!
# The ledger refines a set

Seen from outside a ledger is nothing but the set of triples that were granted and not
revoked since.  `Store` knows the operations of that set (`LedgerStep.onStore`); this file
runs them beside those of the ledger and compares what either can be asked.

* `LedgerStep` — what can be recorded; `LedgerStep.record` does it to a ledger.
* `Ledger.entitlements_record` — one step: the triples of the ledger change as the set does.
* `Ledger.entitlements_recordAll` — a run of them, by induction.
* `Ledger.refines_store` — after any run, each of the four queries is answered by the set.

### What is load-bearing

The queries are functions of `Ledger.entitlements` alone, whatever the two levels of maps
look like below: an entity that was emptied and one that was never granted cannot be told
apart.  So every query is read off the set at one ledger, and only the step lemma speaks of
operations.
-/

namespace AccessHarness

/-- **What can be recorded in a ledger.** -/
inductive LedgerStep where
  | grant (p : Principal) (e : EntityId) (actions : ActionSet)
  /-- Without actions everything on the entity is revoked. -/
  | revoke (p : Principal) (e : EntityId) (actions : Option ActionSet)
  | revokeAll (p : Principal)
  | namespaceDeleted (ns : NamespaceId)
  | clear
  deriving DecidableEq

namespace LedgerStep

/-- The ledger after a step. -/
def record : LedgerStep → Ledger → Ledger
  | grant p e actions, l => l.recordGrant p e actions
  | revoke p e actions, l => l.recordRevoke p e actions
  | revokeAll p, l => l.recordRevokeAll p
  | namespaceDeleted ns, l => l.recordNamespaceDeleted ns
  | clear, _ => Ledger.empty

/-- The set of triples after a step. -/
def onStore : LedgerStep → Store → Store
  | grant p e actions, T =>
    T ∪ {x | x.principal = p ∧ x.entity = e ∧ actions.contains x.action = true}
  | revoke p e (some actions), T =>
    T \ {x | x.principal = p ∧ x.entity = e ∧ actions.contains x.action = true}
  | revoke p e none, T => T \ {x | x.principal = p ∧ x.entity = e}
  | revokeAll p, T => T \ {x | x.principal = p}
  | namespaceDeleted ns, T => T \ {x | x.entity.isContainedIn ns = true}
  | clear, _ => ∅

/-- The ledger after a list of steps. -/
def recordAll (steps : List LedgerStep) (l : Ledger) : Ledger :=
  steps.foldl (fun l step => step.record l) l

/-- The set of triples after a list of steps. -/
def allOnStore (steps : List LedgerStep) (T : Store) : Store :=
  steps.foldl (fun T step => step.onStore T) T

@[simp] theorem recordAll_nil (l : Ledger) : recordAll [] l = l := rfl

@[simp] theorem recordAll_cons (step : LedgerStep) (steps : List LedgerStep) (l : Ledger) :
    recordAll (step :: steps) l = recordAll steps (step.record l) := rfl

theorem recordAll_append (first second : List LedgerStep) (l : Ledger) :
    recordAll (first ++ second) l = recordAll second (recordAll first l) :=
  List.foldl_append

@[simp] theorem allOnStore_nil (T : Store) : allOnStore [] T = T := rfl

@[simp] theorem allOnStore_cons (step : LedgerStep) (steps : List LedgerStep) (T : Store) :
    allOnStore (step :: steps) T = allOnStore steps (step.onStore T) := rfl

end LedgerStep

/-- A namespace does not lie in itself: what is granted on it outlives its contents. -/
@[simp] theorem NamespaceId.isContainedIn_toEntity (ns ns' : NamespaceId) :
    ns.toEntity.isContainedIn ns' = false := rfl

/-- **The triples a grant lists**: one for each of its actions. -/
def Grant.triples (g : Grant) : List Entitlement :=
  g.actions.toList.map fun a => ⟨g.principal, g.entity, a⟩

theorem Grant.mem_triples {g : Grant} {x : Entitlement} :
    x ∈ g.triples ↔
      x.principal = g.principal ∧ x.entity = g.entity ∧ g.actions.contains x.action = true := by
  rw [triples, List.mem_map]
  constructor
  · rintro ⟨a, mem, rfl⟩
    exact ⟨rfl, rfl, ActionSet.mem_toList.1 mem⟩
  · rintro ⟨hp, he, granted⟩
    refine ⟨x.action, ActionSet.mem_toList.2 granted, ?_⟩
    rw [← hp, ← he]

namespace Store

open Classical in
/-- What a principal lacks of a list of requirements, in the order they are required. -/
noncomputable def lacking (T : Store) (p : Principal) (requirements : List Requirement) :
    List Privilege :=
  (requirements.filter fun r => decide ((⟨p, r.1, r.2⟩ : Entitlement) ∉ T)).map
    fun r => ⟨r.1, r.2⟩

open Classical in
theorem lacking_eq_nil_iff {T : Store} {p : Principal} {requirements : List Requirement} :
    T.lacking p requirements = [] ↔ ∀ r ∈ requirements, (⟨p, r.1, r.2⟩ : Entitlement) ∈ T := by
  rw [lacking, List.map_eq_nil_iff, List.filter_eq_nil_iff]
  constructor
  · intro none r mem
    have held := none r mem
    rw [decide_eq_true_eq, not_not] at held
    exact held
  · intro all r mem
    rw [decide_eq_true_eq, not_not]
    exact all r mem

end Store

namespace Ledger

/-! ### What the ledger answers, read off its triples -/

theorem holds_iff_mem {l : Ledger} {p : Principal} {e : EntityId} {a : Action} :
    l.holds p e a = true ↔ (⟨p, e, a⟩ : Entitlement) ∈ l.entitlements :=
  Iff.rfl

/-- The privileges of a principal are the triples of its share. -/
theorem mem_privilegesOf_iff {l : Ledger} {p : Principal} {x : Privilege} :
    x ∈ OrderedSet.members (l.privilegesOf p) ↔
      (⟨p, x.entity, x.action⟩ : Entitlement) ∈ l.entitlements := by
  rw [OrderedSet.mem_members_iff, mem_entitlements_iff, privilegesOf, actionsOn]
  cases l.byPrincipal.find? p with
  | none => simp [OrderedMap.contains]
  | some held =>
    simp only [Option.bind_some]
    rw [OrderedSet.contains_ofMembers, List.mem_flatMap]
    constructor
    · rintro ⟨⟨e, actions⟩, entry, mem⟩
      obtain ⟨a, listed, rfl⟩ := List.mem_map.1 mem
      rw [(OrderedMap.mem_entries_iff held).1 entry, Option.getD_some]
      exact ActionSet.mem_toList.1 listed
    · intro granted
      cases found : held.find? x.entity with
      | none => simp [found] at granted
      | some actions =>
        rw [found, Option.getD_some] at granted
        exact ⟨(x.entity, actions), (OrderedMap.mem_entries_iff held).2 found,
          List.mem_map.2 ⟨x.action, ActionSet.mem_toList.2 granted, rfl⟩⟩

/-- The grants of a ledger list its triples. -/
theorem mem_triples_grants_iff {l : Ledger} {x : Entitlement} :
    x ∈ l.grants.flatMap Grant.triples ↔ x ∈ l.entitlements := by
  rw [mem_entitlements_iff_exists_grant, List.mem_flatMap]
  refine exists_congr fun g => and_congr_right ?_
  intro _
  rw [Grant.mem_triples, Grant.mem_covers_revocation]

/-- What the ledger misses is what its triples lack, in the same order. -/
theorem missing_eq_lacking (l : Ledger) (p : Principal) (requirements : List Requirement) :
    l.missing p requirements = l.entitlements.lacking p requirements := by
  classical
  have same (r : Requirement) :
      (!l.holds p r.1 r.2) = decide ((⟨p, r.1, r.2⟩ : Entitlement) ∉ l.entitlements) := by
    rw [Bool.eq_iff_iff, decide_eq_true_eq, ← holds_iff_mem, Bool.not_eq_true',
      Bool.not_eq_true]
  rw [missing, Store.lacking]
  congr 1
  refine List.filter_congr ?_
  intro r _
  rw [same r]

theorem expect_eq_of_missing {l : Ledger} {p : Principal} {requirements : List Requirement}
    (some_missing : l.missing p requirements ≠ []) :
    l.expect p requirements = .denied (l.missing p requirements) := by
  unfold expect
  split
  · rename_i nothing
    exact absurd nothing some_missing
  · rfl

theorem expect_eq_allowed_iff {l : Ledger} {p : Principal} {requirements : List Requirement} :
    l.expect p requirements = .allowed ↔ l.missing p requirements = [] := by
  constructor
  · intro allowed
    by_contra some_missing
    rw [expect_eq_of_missing some_missing] at allowed
    cases allowed
  · intro nothing
    rw [expect, nothing]

/-! ### Steps and runs -/

/-- **One step**: the triples of the ledger change as the set does. -/
theorem entitlements_record (step : LedgerStep) (l : Ledger) :
    (step.record l).entitlements = step.onStore l.entitlements := by
  cases step with
  | grant p e actions => exact entitlements_recordGrant l ⟨e, p, actions⟩
  | revoke p e actions =>
    rw [LedgerStep.record, entitlements_recordRevoke]
    cases actions with
    | some actions =>
      exact congrArg (l.entitlements \ ·) (Set.ext fun x =>
        Grant.mem_covers_revocation (g := ⟨p, e, actions⟩))
    | none =>
      refine congrArg (l.entitlements \ ·) (Set.ext fun x => ?_)
      rw [RevokeRequest.mem_covers]
      simp
  | revokeAll p => exact entitlements_recordRevokeAll l p
  | namespaceDeleted ns => exact entitlements_recordNamespaceDeleted l ns
  | clear => exact entitlements_empty

theorem entitlements_recordAll (steps : List LedgerStep) (l : Ledger) :
    (LedgerStep.recordAll steps l).entitlements =
      LedgerStep.allOnStore steps l.entitlements := by
  induction steps generalizing l with
  | nil => rfl
  | cons step rest ih =>
    rw [LedgerStep.recordAll_cons, LedgerStep.allOnStore_cons, ih, entitlements_record]

/-- **After any list of operations the ledger answers like the set.**  `T` is what the same
operations make of no triples at all.  The last part is what deleting a namespace spares. -/
theorem refines_store (steps : List LedgerStep) :
    let l := LedgerStep.recordAll steps Ledger.empty
    let T := LedgerStep.allOnStore steps ∅
    (∀ p e a, l.holds p e a = true ↔ (⟨p, e, a⟩ : Entitlement) ∈ T) ∧
    (∀ p (x : Privilege), x ∈ OrderedSet.members (l.privilegesOf p) ↔
      (⟨p, x.entity, x.action⟩ : Entitlement) ∈ T) ∧
    (∀ x, x ∈ l.grants.flatMap Grant.triples ↔ x ∈ T) ∧
    (∀ p requirements,
      (l.expect p requirements = .allowed ↔
        ∀ r ∈ requirements, (⟨p, r.1, r.2⟩ : Entitlement) ∈ T) ∧
      ((∃ r ∈ requirements, (⟨p, r.1, r.2⟩ : Entitlement) ∉ T) →
        l.expect p requirements = .denied (T.lacking p requirements))) ∧
    ∀ (ns : NamespaceId) p a, (⟨p, ns.toEntity, a⟩ : Entitlement) ∈ T ↔
      (⟨p, ns.toEntity, a⟩ : Entitlement) ∈ LedgerStep.onStore (.namespaceDeleted ns) T := by
  intro l T
  have same : l.entitlements = T := by
    show (LedgerStep.recordAll steps Ledger.empty).entitlements = _
    rw [entitlements_recordAll, entitlements_empty]
  have lacks (p : Principal) (requirements : List Requirement) :
      l.missing p requirements = T.lacking p requirements := by
    rw [missing_eq_lacking, same]
  refine ⟨?holds, ?privileges, ?grants, ?expect, ?spared⟩
  case holds =>
    intro p e a
    rw [holds_iff_mem, same]
  case privileges =>
    intro p x
    rw [mem_privilegesOf_iff, same]
  case grants =>
    intro x
    rw [mem_triples_grants_iff, same]
  case expect =>
    intro p requirements
    have allowed : l.expect p requirements = .allowed ↔
        ∀ r ∈ requirements, (⟨p, r.1, r.2⟩ : Entitlement) ∈ T := by
      rw [expect_eq_allowed_iff, lacks, Store.lacking_eq_nil_iff]
    refine ⟨allowed, ?_⟩
    rintro ⟨r, mem, absent⟩
    have some_missing : l.missing p requirements ≠ [] := by
      intro nothing
      exact absent (allowed.1 (expect_eq_allowed_iff.2 nothing) r mem)
    rw [expect_eq_of_missing some_missing, lacks]
  case spared =>
    intro ns p a
    simp [LedgerStep.onStore]

end Ledger

end AccessHarness
