import AccessHarness.Identity.Privilege

/-!
# The ledger of grants

What the harness granted and has not revoked since, so that it can clean up and predict
outcomes.  The ledger maps a principal to its entities and each entity to a set of
actions, both in order.

* Granting adds actions.  Revoking takes actions away and forgets an entity without
  actions and a principal without entities; revoking *every* action forgets the entity
  at once.
* Deleting a namespace voids the grants on what lies in it and keeps those on the
  namespace itself.
* `PrivilegePlan` collects what is to be granted in one go.

### What is load-bearing

Every operation is one `OrderedMap.alter` per level or a filter, so `holds` after an
operation is read off the two lookup laws of `OrderedMap`.
-/

namespace AccessHarness

/-- An action on an entity that an operation needs. -/
abbrev Requirement := EntityId × Action

/-- The actions granted to one principal, by entity. -/
abbrev Holdings := OrderedMap EntityId ActionSet

/-- **Privileges to hand out in one go**, by entity. -/
structure PrivilegePlan where
  entries : Holdings
  deriving DecidableEq

namespace PrivilegePlan

/-- The plan that grants nothing. -/
def empty : PrivilegePlan := ⟨OrderedMap.empty⟩

/-- Plan actions on an entity, beside those planned already. -/
def plan (p : PrivilegePlan) (entity : EntityId) (actions : List Action) : PrivilegePlan :=
  ⟨p.entries.alter entity fun old =>
    some ((old.getD ActionSet.none).union (ActionSet.ofList actions))⟩

/-- The plan of a list of steps. -/
def ofSteps (steps : List (EntityId × List Action)) : PrivilegePlan :=
  steps.foldl (fun p s => p.plan s.1 s.2) empty

/-- Whether nothing is planned. -/
def isEmpty (p : PrivilegePlan) : Bool := p.entries.isEmpty

/-- The entities in order, each with its actions. -/
def toList (p : PrivilegePlan) : List (EntityId × ActionSet) := p.entries.entries

end PrivilegePlan

/-- One recorded grant. -/
structure Grant where
  principal : Principal
  entity : EntityId
  actions : ActionSet
  deriving DecidableEq, Repr

/-- **The grants the harness made and has not revoked since.** -/
structure Ledger where
  byPrincipal : OrderedMap Principal Holdings
  deriving DecidableEq

namespace Ledger

/-- The ledger without grants. -/
def empty : Ledger := ⟨OrderedMap.empty⟩

instance : Inhabited Ledger := ⟨empty⟩

/-- Holdings with something in them. -/
def nonEmpty? (h : Holdings) : Option Holdings := if h.isEmpty then none else some h

/-- Add actions to what is held on an entity. -/
def addActions (actions : ActionSet) (held : Option ActionSet) : Option ActionSet :=
  some ((held.getD ActionSet.none).union actions)

/-- Take actions away; all of them if none are named. -/
def dropActions (actions : Option ActionSet) : Option ActionSet → Option ActionSet
  | none => none
  | some held =>
    match actions with
    | none => none
    | some gone =>
      let left := held.diff gone
      if left.isEmpty then none else some left

/-- Record a grant of actions on an entity. -/
def recordGrant (l : Ledger) (p : Principal) (e : EntityId) (actions : ActionSet) : Ledger :=
  ⟨l.byPrincipal.alter p fun held =>
    some ((held.getD OrderedMap.empty).alter e (addActions actions))⟩

/-- Record that actions on an entity were revoked; all of them if none are named. -/
def recordRevoke (l : Ledger) (p : Principal) (e : EntityId) (actions : Option ActionSet) :
    Ledger :=
  ⟨l.byPrincipal.alter p fun
    | none => none
    | some held => nonEmpty? (held.alter e (dropActions actions))⟩

/-- Record that a principal lost everything. -/
def recordRevokeAll (l : Ledger) (p : Principal) : Ledger := ⟨l.byPrincipal.erase p⟩

/-- Record that a namespace was deleted: grants on what lies in it are void, those on
the namespace itself stay. -/
def recordNamespaceDeleted (l : Ledger) (ns : NamespaceId) : Ledger :=
  ⟨(l.byPrincipal.mapValues fun held => held.filter fun e _ => !e.isContainedIn ns).filter
    fun _ held => !held.isEmpty⟩

/-- Whether an action on an entity was granted and not revoked since. -/
def holds (l : Ledger) (p : Principal) (e : EntityId) (a : Action) : Bool :=
  match l.byPrincipal.find? p with
  | none => false
  | some held =>
    match held.find? e with
    | none => false
    | some actions => actions.contains a

/-- The privileges a principal was granted. -/
def privilegesOf (l : Ledger) (p : Principal) : OrderedSet Privilege :=
  match l.byPrincipal.find? p with
  | none => OrderedMap.empty
  | some held =>
    OrderedSet.ofMembers (held.entries.flatMap fun x => x.2.toList.map fun a => ⟨x.1, a⟩)

/-- **Every recorded grant**, by principal and entity. -/
def grants (l : Ledger) : List Grant :=
  l.byPrincipal.entries.flatMap fun x => x.2.entries.map fun y => ⟨x.1, y.1, y.2⟩

/-- Whether no grant is recorded. -/
def isEmpty (l : Ledger) : Bool := l.byPrincipal.isEmpty

/-- The required privileges that were not granted, in the order they are required. -/
def missing (l : Ledger) (p : Principal) (requirements : List Requirement) : List Privilege :=
  (requirements.filter fun r => !l.holds p r.1 r.2).map fun r => ⟨r.1, r.2⟩

end Ledger

namespace Requirement

/-- What creating a namespace takes: administration of it, and of the principal it runs
as, if any. -/
def forCreation (ns : NamespaceId) (impersonated : Option String) : List Requirement :=
  (ns.toEntity, .admin) ::
    (match impersonated with
     | some principal => [(.kerberosPrincipal principal, .admin)]
     | none => [])

/-- What deleting a namespace takes: administration of it and of everything in it. -/
def forDeletion (ns : NamespaceId) (contained : List EntityId) : List Requirement :=
  (ns.toEntity, .admin) ::
    (contained.filter fun e => e.isContainedIn ns).map fun e => (e, .admin)

end Requirement

end AccessHarness
