import AccessHarness.Routes.Application
import AccessHarness.Scenario.Checks

/-!
# Privilege scenarios

What each of a few users may do to namespaces, datasets and streams, without any
application.  Every scenario works in a namespace of its own, so the privileges of every
user start out clean.
-/

namespace AccessHarness.Scenario

open ContextAct

/-- Test users. -/
def alice : String := "alice"

/-- A test user. -/
def bob : String := "bob"

/-- A test user. -/
def carol : String := "carol"

/-- A test user. -/
def eve : String := "eve"

/-- The latest time of an event. -/
def endOfTime : Int := 0x7fffffffffffffff

/-- **Namespace privileges.**  Creating, listing in and deleting a namespace under
different privileges: the administrator holds the namespace alone, alice everything, eve
only the stream. -/
def namespacePrivileges (c : Context) : ContextAct Unit := do
  let ns := c.testNamespace
  let nsEntity := ns.id.toEntity
  let stream := ns.id.stream "testNamespacePrivileges"
  c.grantNamespaceCreation c.adminPrincipal ns
  c.grantAdmin (.user alice) nsEntity
  c.grantAdmin (.user alice) stream.toEntity
  c.grantAdmin (.user eve) stream.toEntity
  let bobClient ← c.clientFor bob
  let creation := Requirement.forCreation ns.id ns.principal
  verifyPrediction (.user bob) creation "bob creates the namespace"
    (bobClient.createNamespace ns.details : Session Unit)
  verifyPrediction c.adminPrincipal creation "admin creates the namespace"
    (Context.createNamespace c.admin ns)
  assertDenied (.user bob) nsEntity .read (bobClient.listApps ns.id)
  let aliceClient ← c.clientFor alice
  aliceClient.createStream stream
  Context.registerEntity stream.toEntity
  let visible ← c.admin.listStreams ns.id
  ensureEq Nat.repr visible.length 0 "streams visible to the admin"
  let deletion := Requirement.forDeletion ns.id [stream.toEntity]
  let expectation ← expect c.adminPrincipal deletion
  ensure (!expectation.isAllowed) "admin should lack ADMIN on the stream"
  ensureRejected shownUnit "admin deletes the namespace" (c.admin.deleteNamespace ns.id)
  let present ← c.admin.namespaceExists ns.id
  ensure present (ns.id.name ++ " vanished after a rejected delete")
  let eveClient ← c.clientFor eve
  assertDenied (.user eve) nsEntity .admin (eveClient.deleteNamespace ns.id)
  verifyPrediction (.user alice) deletion "alice deletes the namespace"
    (Context.deleteNamespace aliceClient ns.id)
  let present ← c.admin.namespaceExists ns.id
  ensure (!present) (ns.id.name ++ " still exists")

/-- The privileges that creating a namespace gives the administrator. -/
def creationPrivileges (ns : TestNamespace) : OrderedSet Privilege :=
  OrderedSet.ofMembers
    ((Requirement.forCreation ns.id ns.principal).map fun r => ⟨r.1, r.2⟩)

/-- **Listing privileges.**  A listing shows what was granted, also on entities that do
not exist, and loses what lies in a namespace once that is deleted. -/
def listPrivileges (c : Context) : ContextAct Unit := do
  let admin := c.adminPrincipal
  let ns := c.testNamespace
  c.grantNamespaceCreation admin ns
  let expected := creationPrivileges ns
  Context.createNamespace c.admin ns
  let held ← c.access.privileges admin
  ensureEq Privilege.setShown held expected "admin privileges after namespace creation"
  let stream := (ns.id.stream "testListPrivilegeStream").toEntity
  let dataset := (ns.id.dataset "testListPrivilegeDataset").toEntity
  let kerberos := EntityId.kerberosPrincipal "testListPrivilegePrincipal"
  c.access.grant admin stream [.write]
  c.access.grant admin dataset [.read]
  c.access.grant admin kerberos [.admin]
  let expected := ((expected.add ⟨stream, .write⟩).add ⟨dataset, .read⟩).add ⟨kerberos, .admin⟩
  let held ← c.access.privileges admin
  ensureEq Privilege.setShown held expected "admin privileges after more grants"
  let s ← ContextAct.state
  ensureEq Privilege.setShown (s.access.ledger.privilegesOf admin) expected
    "recorded admin privileges"
  Context.deleteNamespace c.admin ns.id
  let present ← c.admin.namespaceExists ns.id
  ensure (!present) (ns.id.name ++ " still exists")
  let held ← c.access.privileges admin
  ensureEq Privilege.setShown held (expected.keep fun p => !p.entity.isContainedIn ns.id)
    "admin privileges after namespace deletion"

/-- **Dataset privileges.**  The administrator holds a dataset, eve may read it, alice
nothing. -/
def datasetPrivileges (c : Context) : ContextAct Unit := do
  let admin := c.adminPrincipal
  let ns := c.testNamespace
  let ds := ns.id.dataset "testDatasetPrivileges"
  let e := ds.toEntity
  c.grantAdmin admin e
  c.access.grant (.user eve) e [.read]
  c.createNamespaceAsAdmin ns
  c.admin.createDataset ds .table
  Context.registerEntity e
  let present ← c.admin.datasetExists ds
  ensure present (e.display ++ " missing after create")
  let visible ← c.admin.listDatasets ns.id
  ensureEq Nat.repr visible.length 1 "datasets visible to the admin"
  let _ ← c.admin.describeDataset ds
  c.admin.truncateDataset ds
  c.admin.updateDataset ds OrderedMap.empty
  let aliceClient ← c.clientFor alice
  assertDenied (.user alice) e .read (aliceClient.datasetExists ds)
  let eveClient ← c.clientFor eve
  let present ← assertAllowed (.user eve) e .read (eveClient.datasetExists ds)
  ensure present "eve does not see the dataset"
  let visible ← assertAllowed (.user eve) e .read (eveClient.listDatasets ns.id)
  ensureEq Nat.repr visible.length 1 "datasets visible to eve"
  let _ ← assertAllowed (.user eve) e .read (eveClient.describeDataset ds)
  assertDenied (.user eve) e .admin (eveClient.truncateDataset ds)
  assertDenied (.user eve) e .admin (eveClient.updateDataset ds OrderedMap.empty)
  assertDenied (.user eve) e .admin (eveClient.deleteDataset ds)
  assertAllowed admin e .admin (c.admin.deleteDataset ds)

/-- **Stream privileges.**  Reading and writing a stream are independent of each other
and of administration. -/
def streamPrivileges (c : Context) : ContextAct Unit := do
  let admin := c.adminPrincipal
  let ns := c.testNamespace
  let stream := ns.id.stream "testStreamPrivileges"
  let e := stream.toEntity
  let shownEvents := Text.shownList StreamEvent.shown
  c.grantAdmin admin e
  c.access.grant (.user alice) e [.write]
  c.access.grant (.user bob) e [.read]
  c.createNamespaceAsAdmin ns
  c.admin.createStream stream
  Context.registerEntity e
  let visible ← c.admin.listStreams ns.id
  ensureEq Nat.repr visible.length 1 "streams visible to the admin"
  let _ ← c.admin.streamProperties stream
  c.admin.truncateStream stream
  let bobClient ← c.clientFor bob
  let aliceClient ← c.clientFor alice
  assertDenied admin e .write (c.admin.sendEvent stream "an event")
  ensureRejected shownEvents "admin reads events" (c.admin.events stream 0 endOfTime 100)
  let _ ← assertAllowed (.user bob) e .read (bobClient.events stream 0 endOfTime 100)
  assertDenied (.user bob) e .write (bobClient.sendEvent stream "an event")
  assertAllowed (.user alice) e .write (aliceClient.sendEvent stream "an event")
  ensureRejected shownEvents "alice reads events" (aliceClient.events stream 0 endOfTime 100)
  assertDenied (.user bob) e .admin (bobClient.deleteStream stream)
  assertDenied (.user alice) e .admin (aliceClient.deleteStream stream)
  assertAllowed admin e .admin (c.admin.deleteStream stream)

/-- **A dataset from creation to loss.**  The administrator creates a namespace, carol a
dataset in it, and carol loses sight of it once all her privileges are revoked. -/
def datasetLifecycle (c : Context) : ContextAct Unit := do
  let ns := TestNamespace.plain (c.uniqueName "ns1")
  let ds := ns.id.dataset "ds1"
  let e := ds.toEntity
  c.grantAdmin c.adminPrincipal ns.id.toEntity
  Context.createNamespace c.admin ns
  c.access.grant (.user carol) e [.read, .write, .admin]
  let carolClient ← c.clientFor carol
  carolClient.createDataset ds .table
  Context.registerEntity e
  let present ← assertAllowed (.user carol) e .read (carolClient.datasetExists ds)
  ensure present (e.display ++ " not visible to carol after creating it")
  c.access.revoke (.user carol) none none
  let s ← ContextAct.state
  ensure (s.access.ledger.privilegesOf (.user carol)).isEmpty "carol still has recorded grants"
  assertDenied (.user carol) e .read (carolClient.datasetExists ds)

end AccessHarness.Scenario
