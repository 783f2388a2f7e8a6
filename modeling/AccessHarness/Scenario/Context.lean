import AccessHarness.Access.Model
import AccessHarness.Pipeline.Plugins
import AccessHarness.Routes.Data
import AccessHarness.Routes.Namespace
import AccessHarness.Settings

/-!
# The context of a scenario

Everything one scenario shares: the administrator's client, the access model, the clients
of the users, and a registry of what has to be cleaned up.

* `Context` stays the same during a scenario; `ContextState` is what changes.
* `Context.teardown` deletes what was registered, in reverse order of registration, and
  revokes what was granted.

### The registry

A thing is registered once, and stands where it was first registered.  It leaves the
registry when it is deleted through the context, or when its namespace is, and when the
context is torn down; nothing else removes it, whatever fails in between.
-/

namespace AccessHarness

/-- What changes during a scenario. -/
structure ContextState where
  access : AccessState
  /-- Clients by user name; each was logged in once. -/
  clients : OrderedMap String RestClient
  /-- Namespaces to delete, in order of registration. -/
  namespaces : List NamespaceId
  /-- Other entities to delete, in order of registration. -/
  entities : List EntityId

namespace ContextState

/-- Before anything happened in a context. -/
def start (t : Transcript) : ContextState := ⟨⟨t, Ledger.empty⟩, OrderedMap.empty, [], []⟩

end ContextState

/-- **An operation in a context.** -/
abbrev ContextAct (α : Type) := ReaderT Environment (Act ContextState) α

namespace ContextAct

variable {α : Type}

/-- An operation of the access model as one that leaves the rest alone. -/
def ofAccess (m : AccessAct α) : ContextAct α := fun env s =>
  let (r, a) := m env s.access
  (r, { s with access := a })

instance : MonadLift AccessAct ContextAct := ⟨ofAccess⟩

instance : MonadLift Session ContextAct := ⟨fun m => ofAccess (AccessAct.ofSession m)⟩

/-- The state as it stands. -/
def state : ContextAct ContextState := fun _ s => (.ok s, s)

/-- Change the state. -/
def update (f : ContextState → ContextState) : ContextAct Unit := fun _ s => (.ok (), f s)

/-- The outcome of an operation as its value. -/
def attempt (m : ContextAct α) : ContextAct (Outcome α) := fun env s =>
  let (r, s') := m env s
  (.ok r, s')

/-- Run an operation and classify what comes of it. -/
def probe (m : ContextAct α) : ContextAct (Probe α) := fun env s =>
  let (r, s') := m env s
  (.ok (.ofOutcome r), s')

/-- Take an outcome over. -/
def ofOutcome (r : Outcome α) : ContextAct α := fun _ s => (r, s)

/-- What the ledger predicts. -/
def expect (p : Principal) (requirements : List Requirement) : ContextAct Expectation :=
  fun _ s => (.ok (s.access.ledger.expect p requirements), s)

end ContextAct

/-- **What stays the same during a scenario.** -/
structure Context where
  settings : Settings
  admin : RestClient
  access : AccessModel
  suffix : String

namespace Context

/-- The client of the administrator: with the preset token, or logged in. -/
def adminClient (s : Settings) : Session RestClient :=
  match s.accessToken with
  | some token => return .ofToken s.endpoint (some token)
  | none => RestClient.login s.endpoint (s.credentialsFor s.adminUser)

/-- Open a context; its names end with the text that is drawn for it. -/
def begin (s : Settings) : Session Context := do
  let admin ← adminClient s
  let env ← read
  return ⟨s, admin, ⟨admin, s.cachePolicy, s.invalidatePath⟩, env.suffix.first⟩

variable (c : Context)

/-- The administrator as a principal. -/
def adminPrincipal : Principal := c.settings.adminPrincipal

/-- A name no other run uses. -/
def uniqueName (start : String) : String := start ++ c.suffix

/-- The namespace a scenario works in, impersonated if the settings say so. -/
def testNamespace : TestNamespace :=
  let name := c.uniqueName c.settings.testNamespace.name
  match c.settings.namespacePrincipal with
  | some principal => .impersonated name principal c.settings.namespaceKeytab
  | none => .plain name

/-- **The client of a user.**  The administrator's is at hand; anyone else logs in once. -/
def clientFor (user : String) : ContextAct RestClient := do
  if user = c.settings.adminUser then return c.admin
  let s ← ContextAct.state
  match s.clients.find? user with
  | some client => return client
  | none =>
    let client ← (RestClient.login c.settings.endpoint (c.settings.credentialsFor user) :
      Session RestClient)
    ContextAct.update fun s => { s with clients := s.clients.insert user client }
    return client

/-- Register a namespace for deletion. -/
def registerNamespace (ns : NamespaceId) : ContextAct Unit :=
  ContextAct.update fun s =>
    if s.namespaces.contains ns then s else { s with namespaces := s.namespaces ++ [ns] }

/-- Register an entity for deletion. -/
def registerEntity (e : EntityId) : ContextAct Unit :=
  ContextAct.update fun s =>
    if s.entities.contains e then s else { s with entities := s.entities ++ [e] }

/-- Create a namespace as some client, and register it. -/
def createNamespace (client : RestClient) (ns : TestNamespace) : ContextAct Unit := do
  client.createNamespace ns.details
  registerNamespace ns.id

/-- Delete a namespace as some client: it leaves the registry together with everything in
it, and grants inside it no longer count. -/
def deleteNamespace (client : RestClient) (ns : NamespaceId) : ContextAct Unit := do
  client.deleteNamespace ns
  ContextAct.update fun s =>
    { s with
      namespaces := s.namespaces.filter fun n => n != ns
      entities := s.entities.filter fun e => !e.isContainedIn ns }
  AccessModel.namespaceDeleted ns

/-- Whether an entity can be deleted on its own. -/
def isDeletable : EntityId → Bool
  | .dataset .. | .stream .. | .application .. => true
  | _ => false

/-- Register each entity of a list. -/
def registerEntities : List EntityId → ContextAct Unit
  | [] => return ()
  | e :: rest => do
    registerEntity e
    registerEntities rest

/-- Grant a plan, and register what it names and can be deleted. -/
def grantAll (p : Principal) (plan : PrivilegePlan) : ContextAct Unit := do
  let touched ← c.access.grantAll p plan
  registerEntities (touched.filter isDeletable)

/-- Install a plugin from the market as the administrator. -/
def installPlugin (ns : NamespaceId) (package plugin version : String) : Session Unit :=
  Market.install c.admin ns c.settings.marketUrl package plugin version

/-! ### Teardown -/

/-- Delete an entity as the administrator, who is granted what that takes. -/
def cleanupEntity (e : EntityId) : AccessAct Unit := do
  match e with
  | .dataset ns name =>
    c.access.grantIfMissing c.adminPrincipal e .admin
    c.admin.deleteDataset ⟨⟨ns⟩, name⟩
  | .stream ns name =>
    c.access.grantIfMissing c.adminPrincipal e .admin
    c.admin.deleteStream ⟨⟨ns⟩, name⟩
  | .application ns name =>
    c.access.grantIfMissing c.adminPrincipal e .admin
    c.admin.deleteApp ⟨⟨ns⟩, name⟩
  | _ => return ()

/-- Delete a namespace as the administrator, who is granted what that takes. -/
def cleanupNamespace (ns : NamespaceId) : AccessAct Unit := do
  c.access.grantIfMissing c.adminPrincipal ns.toEntity .admin
  c.admin.deleteNamespace ns

/-- The first failure, after a cleanup that may find nothing to clean up. -/
def firstFailure (first : Option Fault) : Outcome Unit → Option Fault
  | .ok () => first
  | .error f => if f.isNotFound then first else AccessModel.firstFailure first (.error f)

/-- Delete entities one after the other, whatever comes of each. -/
def cleanupEntities : List EntityId → Option Fault → AccessAct (Option Fault)
  | [], first => return first
  | e :: rest, first => do
    let r ← AccessAct.attempt (c.cleanupEntity e)
    cleanupEntities rest (firstFailure first r)

/-- Delete namespaces one after the other, whatever comes of each. -/
def cleanupNamespaces : List NamespaceId → Option Fault → AccessAct (Option Fault)
  | [], first => return first
  | ns :: rest, first => do
    let r ← AccessAct.attempt (c.cleanupNamespace ns)
    match r with
    | .ok () => AccessModel.namespaceDeleted ns
    | .error _ => pure ()
    cleanupNamespaces rest (firstFailure first r)

/-- **Clean up.**  Registered entities are deleted, then registered namespaces, then every
recorded grant is revoked; everything is tried, and the first failure is reported. -/
def teardown : ContextAct Unit := do
  let s ← ContextAct.state
  ContextAct.update fun s => { s with entities := [] }
  let first ← c.cleanupEntities s.entities.reverse none
  ContextAct.update fun s => { s with namespaces := [] }
  let first ← c.cleanupNamespaces s.namespaces.reverse first
  let revoked ← AccessAct.attempt c.access.teardown
  match AccessModel.outcomeOf (AccessModel.firstFailure first revoked) with
  | .ok () => return ()
  | .error f => throw f

/-! ### Common steps of scenarios -/

/-- Grant, one by one, what a list of requirements asks for. -/
def grantRequirements (p : Principal) : List Requirement → ContextAct Unit
  | [] => return ()
  | (e, a) :: rest => do
    c.access.grant p e [a]
    grantRequirements p rest

/-- Grant what creating a namespace takes. -/
def grantNamespaceCreation (p : Principal) (ns : TestNamespace) : ContextAct Unit :=
  c.grantRequirements p (Requirement.forCreation ns.id ns.principal)

/-- Create a namespace as the administrator, who is granted what that takes. -/
def createNamespaceAsAdmin (ns : TestNamespace) : ContextAct Unit := do
  c.grantNamespaceCreation c.adminPrincipal ns
  createNamespace c.admin ns

/-- Grant administration of an entity. -/
def grantAdmin (p : Principal) (e : EntityId) : ContextAct Unit :=
  c.access.grant p e [.admin]

/-- A file in a directory; an absolute name stands for itself. -/
def fileIn (directory name : String) : String :=
  if Text.startsWith ['/'] name.toList then name
  else if directory.toList.getLast? = some '/' then directory ++ name
  else directory ++ "/" ++ name

/-- **Deploy a test application** as some client, and register it.  With a directory of
artifacts the artifact is uploaded first; otherwise the platform must have it. -/
def deployTestApp (client : RestClient) (app : ApplicationId) (artifact : String)
    (config : Option Json) (owner : Option String) : ContextAct Unit := do
  let version := c.settings.artifactVersion
  let summary ← match c.settings.artifactDirectory with
    | some directory => do
      let content ← Session.fileContent (fileIn directory (artifact ++ "-" ++ version ++ ".jar"))
      client.addArtifact (app.ns.artifact artifact version) [] content
      pure (ArtifactSummary.user artifact version)
    | none => pure (ArtifactSummary.system artifact version)
  client.deployApp app id ⟨summary, config, owner⟩
  registerEntity app.toEntity

end Context

end AccessHarness
