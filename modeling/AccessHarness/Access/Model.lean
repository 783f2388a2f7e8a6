import AccessHarness.Access.Cache
import AccessHarness.Routes.Privilege

/-!
# The access model

Privileges are granted and revoked through the administrator's client, and everything
that was granted is remembered in a ledger.  The platform owns the privileges and
enforces them; the ledger serves to predict outcomes and to clean up.

* `AccessModel` is what stays the same: the client, the cache policy, the path that
  invalidates.
* `AccessAct α` is an operation that may change the ledger; `Session` operations lift
  into it and leave the ledger alone.

### What is load-bearing

A ledger entry is written *between* the request and whatever comes after it, and it
stays when a later step fails.  The type says so: an `AccessAct` leaves a state whether
it fails or not.
-/

namespace AccessHarness

/-- What an operation of the access model changes. -/
structure AccessState where
  transcript : Transcript
  ledger : Ledger

/-- **An operation of the access model.** -/
abbrev AccessAct (α : Type) := ReaderT Environment (Act AccessState) α

namespace AccessAct

variable {α : Type}

/-- A session as an operation that leaves the ledger alone. -/
def ofSession (m : Session α) : AccessAct α := fun env s =>
  let (r, t) := m env s.transcript
  (r, { s with transcript := t })

instance : MonadLift Session AccessAct := ⟨ofSession⟩

/-- The ledger as it stands. -/
def ledger : AccessAct Ledger := fun _ s => (.ok s.ledger, s)

/-- Change the ledger. -/
def record (f : Ledger → Ledger) : AccessAct Unit := fun _ s =>
  (.ok (), { s with ledger := f s.ledger })

/-- The outcome of an operation as its value. -/
def attempt (m : AccessAct α) : AccessAct (Outcome α) := fun env s =>
  let (r, s') := m env s
  (.ok r, s')

end AccessAct

/-- **Declares and changes privileges through the administrator's client.** -/
structure AccessModel where
  admin : RestClient
  policy : CachePolicy
  invalidatePath : String
  deriving DecidableEq

namespace AccessModel

/-- The first of two failures. -/
def firstFailure : Option Fault → Outcome Unit → Option Fault
  | some f, _ => some f
  | none, .error f => some f
  | none, .ok () => none

/-- An outcome from the first failure of a run. -/
def outcomeOf : Option Fault → Outcome Unit
  | some f => .error f
  | none => .ok ()

/-- Make the platform forget its cached decisions. -/
def invalidate (m : AccessModel) : Session Unit := m.admin.invalidateCache m.invalidatePath

/-- What the policy does after a change. -/
def refresh (m : AccessModel) : Session Unit :=
  match m.policy with
  | .invalidateOnMutation => m.invalidate
  | .stalenessWindow window => Session.sleep window
  | .manual => return ()

/-- What the platform reports about a principal. -/
def privileges (m : AccessModel) (p : Principal) : Session (OrderedSet Privilege) :=
  m.admin.listPrivileges p

/-- Grant on the platform, then record it. -/
def issueGrant (m : AccessModel) (p : Principal) (e : EntityId) (actions : ActionSet) :
    AccessAct Unit := do
  m.admin.grantPrivileges ⟨e, p, actions⟩
  AccessAct.record fun l => l.recordGrant p e actions

/-- Grant actions on an entity. -/
def grant (m : AccessModel) (p : Principal) (e : EntityId) (actions : List Action) :
    AccessAct Unit := do
  m.issueGrant p e (ActionSet.ofList actions)
  m.refresh

/-- Grant entity by entity. -/
def issueGrants (m : AccessModel) (p : Principal) : List (EntityId × ActionSet) → AccessAct Unit
  | [] => return ()
  | (e, actions) :: rest => do
    m.issueGrant p e actions
    m.issueGrants p rest

/-- Grant a whole plan, with one refresh at the end; returns the entities. -/
def grantAll (m : AccessModel) (p : Principal) (plan : PrivilegePlan) :
    AccessAct (List EntityId) := do
  m.issueGrants p plan.toList
  m.refresh
  return plan.entries.keys

/-- Grant an action unless it is held already, so that what the platform had before is
not recorded, and not revoked later. -/
def grantIfMissing (m : AccessModel) (p : Principal) (e : EntityId) (a : Action) :
    AccessAct Unit := do
  let l ← AccessAct.ledger
  if l.holds p e a then return ()
  let held ← m.privileges p
  if held.contains ⟨e, a⟩ then return ()
  m.grant p e [a]

/-- The entities of a set of privileges, in order. -/
def entitiesOf (held : OrderedSet Privilege) : List EntityId :=
  OrderedSet.members (OrderedSet.ofMembers (held.members.map (·.entity)))

/-- Revoke every action on each entity. -/
def revokeEntities (m : AccessModel) (p : Principal) : List EntityId → Session Unit
  | [] => return ()
  | e :: rest => do
    m.admin.revokePrivileges ⟨e, some p, none⟩
    m.revokeEntities p rest

/-- **Revoke.**  Without an entity everything the platform reports about the principal,
without actions every action on the entity. -/
def revoke (m : AccessModel) (p : Principal) (e : Option EntityId)
    (actions : Option (List Action)) : AccessAct Unit := do
  match e with
  | some e =>
    let actions := actions.map ActionSet.ofList
    m.admin.revokePrivileges ⟨e, some p, actions⟩
    AccessAct.record fun l => l.recordRevoke p e actions
  | none =>
    let held ← m.privileges p
    m.revokeEntities p (entitiesOf held)
    AccessAct.record fun l => l.recordRevokeAll p
  m.refresh

/-- Record that a namespace was deleted. -/
def namespaceDeleted (ns : NamespaceId) : AccessAct Unit :=
  AccessAct.record fun l => l.recordNamespaceDeleted ns

/-- Revoke every one of a list of grants, whatever comes of the others; what comes back
is the first failure. -/
def revokeGrants (m : AccessModel) : List Grant → Option Fault → AccessAct (Option Fault)
  | [], first => return first
  | g :: rest, first => do
    match ← AccessAct.attempt (m.admin.revokePrivileges ⟨g.entity, some g.principal, some g.actions⟩) with
    | .ok () =>
      AccessAct.record fun l => l.recordRevoke g.principal g.entity (some g.actions)
      m.revokeGrants rest first
    | .error f => m.revokeGrants rest (firstFailure first (.error f))

/-- **Revoke exactly what was granted and not revoked since.**  Every recorded grant is
tried, then the cache is refreshed; the first failure is reported, and the ledger is
empty afterwards in any case. -/
def teardown (m : AccessModel) : AccessAct Unit := do
  let l ← AccessAct.ledger
  let first ← m.revokeGrants l.grants none
  let refreshed ← AccessAct.attempt (AccessAct.ofSession m.refresh)
  AccessAct.record fun _ => Ledger.empty
  match outcomeOf (firstFailure first refreshed) with
  | .ok () => return ()
  | .error f => throw f

end AccessModel

end AccessHarness
