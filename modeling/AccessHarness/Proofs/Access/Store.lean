import AccessHarness.Access.Ledger
import AccessHarness.Documents.Access
import AccessHarness.Proofs.Lookup
import Mathlib.Data.Set.Basic
import Mathlib.Tactic.Tauto

/-!
# Stores of privileges

A platform holds privileges as a set of triples, and so does the ledger, once its two maps
are forgotten.  Both sides speak of changes in the same words here:

* `Entitlement` — an action of a principal on an entity; `Store` — a set of these.
* `Change` — what a request asks of a store: to grant, to revoke, to void what lies in a
  namespace.  `Change.apply` carries it out.
* `Ledger.entitlements` — the triples for which the ledger answers `true`.
* `Ledger.written?` — what is written for a principal on an entity; `Ledger.mem_grants_iff`, the
  grants are the entries.

### What is load-bearing

Every operation of the ledger is told entry by entry (`written?_recordGrant`,
`written?_recordRevoke`, …), and nothing after that looks at the two levels of maps.

It is `Change.apply` on the triples (`entitlements_recordGrant`, `entitlements_recordRevoke`,
…).  A platform that carries out a change and a ledger that records it therefore move in step,
and what holds between the two sets is a matter of set algebra.
-/

namespace AccessHarness

/-- An action that a principal may do to an entity. -/
structure Entitlement where
  principal : Principal
  entity : EntityId
  action : Action
  deriving DecidableEq, Repr

/-- The privileges that somebody holds. -/
abbrev Store := Set Entitlement

/-- What a grant gives. -/
def GrantRequest.covers (g : GrantRequest) : Store :=
  {x | x.principal = g.principal ∧ x.entity = g.entity ∧ g.actions.contains x.action = true}

/-- What a revocation takes away: a part that is not named leaves everybody, or every
action, in. -/
def RevokeRequest.covers (v : RevokeRequest) : Store :=
  {x | (∀ p, v.principal = some p → x.principal = p) ∧ x.entity = v.entity ∧
    ∀ actions, v.actions = some actions → actions.contains x.action = true}

/-- What lies in a namespace. -/
def NamespaceId.contents (ns : NamespaceId) : Store := {x | x.entity.isContainedIn ns = true}

/-- What a principal holds. -/
def Principal.share (p : Principal) : Store := {x | x.principal = p}

/-- **What is asked of a store.** -/
inductive Change where
  | grant (request : GrantRequest)
  | revoke (request : RevokeRequest)
  /-- The namespace is deleted, and with it everything it contains. -/
  | delete (ns : NamespaceId)
  deriving DecidableEq

/-- A store after a change. -/
def Change.apply : Change → Store → Store
  | .grant g, S => S ∪ g.covers
  | .revoke v, S => S \ v.covers
  | .delete ns, S => S \ ns.contents

theorem GrantRequest.mem_covers {g : GrantRequest} {x : Entitlement} :
    x ∈ g.covers ↔
      x.principal = g.principal ∧ x.entity = g.entity ∧ g.actions.contains x.action = true :=
  Iff.rfl

theorem RevokeRequest.mem_covers {v : RevokeRequest} {x : Entitlement} :
    x ∈ v.covers ↔
      (∀ p, v.principal = some p → x.principal = p) ∧ x.entity = v.entity ∧
        ∀ actions, v.actions = some actions → actions.contains x.action = true :=
  Iff.rfl

@[simp] theorem NamespaceId.mem_contents {ns : NamespaceId} {x : Entitlement} :
    x ∈ ns.contents ↔ x.entity.isContainedIn ns = true := Iff.rfl

@[simp] theorem Principal.mem_share {p : Principal} {x : Entitlement} :
    x ∈ p.share ↔ x.principal = p := Iff.rfl

namespace Ledger

/-- The triples for which the ledger says that they were granted. -/
def entitlements (l : Ledger) : Store := {x | l.holds x.principal x.entity x.action = true}

/-- **What is written for a principal on an entity**, if anything is. -/
def written? (l : Ledger) (p : Principal) (e : EntityId) : Option ActionSet :=
  (l.byPrincipal.find? p).bind fun held => held.find? e

/-- The actions recorded for a principal on an entity; none if there is no record. -/
def actionsOn (l : Ledger) (p : Principal) (e : EntityId) : ActionSet :=
  ((l.byPrincipal.find? p).bind fun held => held.find? e).getD ActionSet.none

theorem actionsOn_eq (l : Ledger) (p : Principal) (e : EntityId) :
    l.actionsOn p e = (l.written? p e).getD ActionSet.none := rfl

theorem holds_eq (l : Ledger) (p : Principal) (e : EntityId) (a : Action) :
    l.holds p e a = (l.actionsOn p e).contains a := by
  unfold holds actionsOn
  cases l.byPrincipal.find? p with
  | none => simp
  | some held =>
    simp only [Option.bind_some]
    cases held.find? e with
    | none => simp
    | some actions => simp

theorem mem_entitlements_iff {l : Ledger} {x : Entitlement} :
    x ∈ l.entitlements ↔ (l.actionsOn x.principal x.entity).contains x.action = true := by
  rw [← holds_eq]
  exact Iff.rfl

@[simp] theorem written?_empty (p : Principal) (e : EntityId) : empty.written? p e = none := rfl

@[simp] theorem entitlements_empty : empty.entitlements = ∅ := by
  ext x
  simp [mem_entitlements_iff, actionsOn_eq]

/-! ### The operations, entry by entry -/

theorem written?_recordGrant (l : Ledger) (p p' : Principal) (e e' : EntityId)
    (actions : ActionSet) :
    (l.recordGrant p e actions).written? p' e' =
      if p' = p ∧ e' = e then addActions actions (l.written? p e) else l.written? p' e' := by
  unfold written? recordGrant
  by_cases hp : p' = p
  · subst hp
    rw [OrderedMap.find?_alter_self, Option.bind_some]
    by_cases he : e' = e
    · subst he
      rw [OrderedMap.find?_alter_self]
      cases l.byPrincipal.find? p' <;> simp
    · rw [OrderedMap.find?_alter_ne _ _ he]
      cases l.byPrincipal.find? p' <;> simp [he]
  · rw [OrderedMap.find?_alter_ne _ _ hp]
    simp [hp]

/-- Holdings without entities answer like no holdings. -/
private theorem nonEmpty?_bind (h : Holdings) (e : EntityId) :
    ((nonEmpty? h).bind fun held => held.find? e) = h.find? e := by
  unfold nonEmpty?
  split
  · rename_i nothing
    rw [(h.isEmpty_iff.1 nothing) e, Option.bind_none]
  · rw [Option.bind_some]

theorem written?_recordRevoke (l : Ledger) (p p' : Principal) (e e' : EntityId)
    (actions : Option ActionSet) :
    (l.recordRevoke p e actions).written? p' e' =
      if p' = p ∧ e' = e then dropActions actions (l.written? p e) else l.written? p' e' := by
  unfold written? recordRevoke
  by_cases hp : p' = p
  · subst hp
    rw [OrderedMap.find?_alter_self]
    cases l.byPrincipal.find? p' with
    | none => simp [dropActions]
    | some held =>
      simp only [nonEmpty?_bind, Option.bind_some]
      by_cases he : e' = e
      · subst he
        simp
      · rw [OrderedMap.find?_alter_ne _ _ he]
        simp [he]
  · rw [OrderedMap.find?_alter_ne _ _ hp]
    simp [hp]

theorem written?_recordRevokeAll (l : Ledger) (p p' : Principal) (e : EntityId) :
    (l.recordRevokeAll p).written? p' e = if p' = p then none else l.written? p' e := by
  unfold written? recordRevokeAll
  by_cases hp : p' = p
  · simp [hp]
  · rw [OrderedMap.find?_erase_ne _ hp]
    simp [hp]

private theorem filter_nonEmpty_bind (h : Holdings) (e : EntityId) :
    (((some h).filter fun held => !held.isEmpty).bind fun held => held.find? e) = h.find? e := by
  cases nothing : h.isEmpty with
  | true => simp [Option.filter, nothing, h.isEmpty_iff.1 nothing e]
  | false => simp [Option.filter, nothing]

theorem written?_recordNamespaceDeleted (l : Ledger) (ns : NamespaceId) (p : Principal)
    (e : EntityId) :
    (l.recordNamespaceDeleted ns).written? p e =
      if e.isContainedIn ns = true then none else l.written? p e := by
  unfold written? recordNamespaceDeleted
  rw [OrderedMap.find?_filter, OrderedMap.find?_mapValues]
  cases l.byPrincipal.find? p with
  | none => simp
  | some held =>
    rw [Option.map_some, filter_nonEmpty_bind, OrderedMap.find?_filter, Option.bind_some]
    cases held.find? e with
    | none => simp
    | some actions => cases e.isContainedIn ns <;> simp [Option.filter]

/-! ### The operations as changes -/

theorem actionsOn_recordGrant (l : Ledger) (p p' : Principal) (e e' : EntityId)
    (actions : ActionSet) :
    (l.recordGrant p e actions).actionsOn p' e' =
      if p' = p ∧ e' = e then (l.actionsOn p e).union actions else l.actionsOn p' e' := by
  rw [actionsOn_eq, written?_recordGrant]
  split <;> rfl

/-- **Recording a grant is granting.** -/
theorem entitlements_recordGrant (l : Ledger) (g : GrantRequest) :
    (l.recordGrant g.principal g.entity g.actions).entitlements =
      Change.apply (.grant g) l.entitlements := by
  ext x
  rw [Change.apply, Set.mem_union, mem_entitlements_iff, mem_entitlements_iff,
    actionsOn_recordGrant, GrantRequest.mem_covers]
  by_cases h : x.principal = g.principal ∧ x.entity = g.entity
  · simp [h]
  · rw [if_neg h]
    tauto

/-- What is left of the actions on an entity. -/
private theorem getD_dropActions (actions : Option ActionSet) (held : Option ActionSet)
    (a : Action) :
    ((dropActions actions held).getD ActionSet.none).contains a =
      ((held.getD ActionSet.none).contains a && !(actions.all fun gone => gone.contains a)) := by
  cases held with
  | none => simp [dropActions]
  | some held =>
    cases actions with
    | none => simp [dropActions]
    | some gone =>
      simp only [dropActions]
      split
      · rename_i nothing
        have left := ActionSet.isEmpty_iff.1 nothing a
        rw [ActionSet.contains_diff] at left
        simpa using left
      · simp

theorem contains_actionsOn_recordRevoke (l : Ledger) (p p' : Principal) (e e' : EntityId)
    (actions : Option ActionSet) (a : Action) :
    ((l.recordRevoke p e actions).actionsOn p' e').contains a =
      ((l.actionsOn p' e').contains a &&
        !(decide (p' = p ∧ e' = e) && actions.all fun gone => gone.contains a)) := by
  rw [actionsOn_eq, written?_recordRevoke, actionsOn_eq]
  by_cases same : p' = p ∧ e' = e
  · rw [if_pos same, getD_dropActions, same.1, same.2]
    simp
  · rw [if_neg same]
    simp [same]

/-- **Recording a revocation is revoking.** -/
theorem entitlements_recordRevoke (l : Ledger) (p : Principal) (e : EntityId)
    (actions : Option ActionSet) :
    (l.recordRevoke p e actions).entitlements =
      Change.apply (.revoke ⟨e, some p, actions⟩) l.entitlements := by
  ext x
  rw [Change.apply, Set.mem_sdiff, mem_entitlements_iff, mem_entitlements_iff,
    contains_actionsOn_recordRevoke, RevokeRequest.mem_covers]
  cases actions with
  | none =>
    simp
    tauto
  | some gone =>
    simp
    tauto

theorem entitlements_recordRevokeAll (l : Ledger) (p : Principal) :
    (l.recordRevokeAll p).entitlements = l.entitlements \ p.share := by
  ext x
  rw [Set.mem_sdiff, mem_entitlements_iff, mem_entitlements_iff, Principal.mem_share,
    actionsOn_eq, written?_recordRevokeAll, actionsOn_eq]
  by_cases hp : x.principal = p <;> simp [hp]

/-- **Recording that a namespace was deleted voids what lies in it.** -/
theorem entitlements_recordNamespaceDeleted (l : Ledger) (ns : NamespaceId) :
    (l.recordNamespaceDeleted ns).entitlements = Change.apply (.delete ns) l.entitlements := by
  ext x
  rw [Change.apply, Set.mem_sdiff, mem_entitlements_iff, mem_entitlements_iff,
    NamespaceId.mem_contents, actionsOn_eq, written?_recordNamespaceDeleted, actionsOn_eq]
  by_cases inside : x.entity.isContainedIn ns = true <;> simp [inside]

end Ledger

/-! ### Grants as entries -/

/-- The request that takes back what a recorded grant gave, and nothing else. -/
def Grant.revocation (g : Grant) : RevokeRequest := ⟨g.entity, some g.principal, some g.actions⟩

theorem Grant.mem_covers_revocation {g : Grant} {x : Entitlement} :
    x ∈ g.revocation.covers ↔
      x.principal = g.principal ∧ x.entity = g.entity ∧ g.actions.contains x.action = true := by
  rw [RevokeRequest.mem_covers]
  simp [revocation]

namespace Ledger

/-- **A grant is listed exactly if it is what is written.** -/
theorem mem_grants_iff {l : Ledger} {g : Grant} :
    g ∈ l.grants ↔ l.written? g.principal g.entity = some g.actions := by
  rw [grants, List.mem_flatMap, written?, Option.bind_eq_some_iff]
  constructor
  · rintro ⟨⟨p, held⟩, hp, mem⟩
    obtain ⟨⟨e, actions⟩, he, rfl⟩ := List.mem_map.1 mem
    exact ⟨held, (OrderedMap.mem_entries_iff _).1 hp, (OrderedMap.mem_entries_iff _).1 he⟩
  · rintro ⟨held, hp, he⟩
    exact ⟨(g.principal, held), (OrderedMap.mem_entries_iff _).2 hp,
      List.mem_map.2 ⟨(g.entity, g.actions), (OrderedMap.mem_entries_iff _).2 he, rfl⟩⟩

/-- **The triples of a ledger are those of its grants.** -/
theorem mem_entitlements_iff_exists_grant {l : Ledger} {x : Entitlement} :
    x ∈ l.entitlements ↔ ∃ g ∈ l.grants, x ∈ g.revocation.covers := by
  rw [mem_entitlements_iff, actionsOn_eq]
  constructor
  · intro granted
    cases written : l.written? x.principal x.entity with
    | none => simp [written] at granted
    | some actions =>
      rw [written] at granted
      exact ⟨⟨x.principal, x.entity, actions⟩, mem_grants_iff.2 written,
        Grant.mem_covers_revocation.2 ⟨rfl, rfl, granted⟩⟩
  · rintro ⟨g, recorded, covered⟩
    obtain ⟨hp, he, granted⟩ := Grant.mem_covers_revocation.1 covered
    rw [hp, he, mem_grants_iff.1 recorded]
    exact granted

end Ledger

end AccessHarness
