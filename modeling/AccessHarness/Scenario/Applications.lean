import AccessHarness.Routes.Program
import AccessHarness.Scenario.Privileges

/-!
# Application scenarios

Deploying an application with and without the privileges that takes, and an application
whose service reads a dataset with the privileges of its owner.
-/

namespace AccessHarness.Scenario

open ContextAct

namespace Purchase

/-- The purchase application. -/
def app : String := "PurchaseHistory"

/-- Its artifact. -/
def artifact : String := "PurchaseApp"

/-- The dataset type and module it brings along. -/
def store : String := "co.cask.cdap.examples.purchase.PurchaseHistoryStore"

/-- What the purchase application creates when it is deployed. -/
def entities (ns : NamespaceId) : List EntityId :=
  [(ns.dataset "frequentCustomers").toEntity, (ns.stream "purchaseStream").toEntity,
   (ns.dataset "userProfiles").toEntity, (ns.dataset "history").toEntity,
   (ns.dataset "purchases").toEntity, ns.datasetModule store, ns.datasetType store]

end Purchase

/-- Plan administration of each entity of a list. -/
def planAdmin (plan : PrivilegePlan) (entities : List EntityId) : PrivilegePlan :=
  entities.foldl (fun p e => p.plan e [.admin]) plan

/-- **Deploying an application.**  Carol deploys the purchase application with everything
that takes, but cannot run it.  What it creates belongs to the principal the namespace
runs as, or else to carol. -/
def deployApp (c : Context) : ContextAct Unit := do
  let ns := c.testNamespace
  let app := ns.id.app Purchase.app
  let artifact := ns.id.artifact Purchase.artifact c.settings.artifactVersion
  let adminPlan := planAdmin .empty
    [ns.id.toEntity, (app.service "PurchaseHistoryService").toEntity,
     (app.service "UserProfileService").toEntity, (app.service "CatalogLookup").toEntity,
     (app.flow "PurchaseFlow").toEntity, (app.workflow "PurchaseHistoryWorkflow").toEntity,
     (app.mapreduce "PurchaseHistoryBuilder").toEntity]
  let carolPlan := planAdmin .empty [app.toEntity, artifact.toEntity]
  let created := Purchase.entities ns.id
  match ns.principal with
  | some owner =>
    c.grantAll (.user owner) (planAdmin .empty created)
    c.grantAll c.adminPrincipal (planAdmin adminPlan [.kerberosPrincipal owner])
    c.grantAll (.user carol) (planAdmin carolPlan [.kerberosPrincipal owner])
  | none =>
    c.grantAll c.adminPrincipal adminPlan
    c.grantAll (.user carol) (planAdmin carolPlan created)
  Context.createNamespace c.admin ns
  let carolClient ← c.clientFor carol
  c.deployTestApp carolClient app Purchase.artifact none none
  ensureRejected shownUnit "carol starts PurchaseFlow without EXECUTE"
    (carolClient.startProgram (app.flow "PurchaseFlow") OrderedMap.empty)

/-- **Deploying without privileges.**  Without any privilege in the namespace carol cannot
deploy. -/
def deployAppUnauthorized (c : Context) : ContextAct Unit := do
  let ns := c.testNamespace
  c.createNamespaceAsAdmin ns
  let app := ns.id.app Purchase.app
  let carolClient ← c.clientFor carol
  let observed ← probe (c.deployTestApp carolClient app Purchase.artifact none none)
  let expectation ← expect (.user carol) [(app.toEntity, .admin)]
  let _ ← ofOutcome (expectation.verify "carol deploys PurchaseApp" observed)
  return ()

namespace TableApp

/-- The application with a table service, and its artifact. -/
def app : String := "TableDatasetApp"

/-- The table service. -/
def service : String := "DatasetService"

/-- Deploy the application as the administrator for an owner, start its service and wait
for it to answer. -/
def start (c : Context) (app : ApplicationId) (dataset owner : String) : ContextAct Url := do
  c.deployTestApp c.admin app TableApp.app (some (.obj [("datasetName", .str dataset)]))
    (some owner)
  let service := app.service TableApp.service
  c.admin.startProgram service OrderedMap.empty
  let _ ← c.admin.waitForRun service .running
    (.programStartStop (service.display ++ " running"))
  let w ← ofOutcome ((WaitSpec.programStartStop (service.display ++ " available")).scaled 2)
  c.admin.serviceUrl service w

/-- Stop a service and wait until a number of its runs were killed. -/
def stop (client : RestClient) (service : ProgramId) (runs : Nat) : Session Unit := do
  client.stopProgram service
  let _ ← client.waitForRuns service .killed runs
    (.programFirstProcessed (service.display ++ " killed"))
  return ()

/-- Stop and start a service, so that it takes up the privileges its owner has now. -/
def restart (client : RestClient) (service : ProgramId) (killed : Nat) : Session Url := do
  stop client service killed
  client.startProgram service OrderedMap.empty
  let _ ← client.waitForRun service .running
    (.programStartStop (service.display ++ " running"))
  client.serviceUrl service (.programStartStop (service.display ++ " available"))

/-- Writes one column of the row. -/
def put (column value : String) : TablePut := ⟨"row", OrderedMap.ofList [(column, value)]⟩

/-- Reads the column that alice's service wrote. -/
def get : TableGet := ⟨"row", some ["col"]⟩

/-- Adds one to the column that alice's service wrote. -/
def increment : TableIncrement := ⟨"row", OrderedMap.ofList [("col", 1)]⟩

end TableApp

/-- **Stages.**  Run operations in turn until one fails; each comes with a number, and the
number of the last one begun is handed on with the outcome. -/
def inStages : List (Nat × ContextAct Unit) → Nat → ContextAct (Outcome Unit × Nat)
  | [], reached => return (.ok (), reached)
  | (n, stage) :: rest, _ => do
    match ← attempt stage with
    | .ok () => inStages rest n
    | .error f => return (.error f, n)

/-- What bob's service may do to alice's dataset: first with READ, then after a restart
with WRITE as well, then after another with WRITE alone.  Each stage comes with the number
of restarts begun. -/
def bobStages (c : Context) (client : RestClient) (service : ProgramId) (ds : DatasetId)
    (url : Url) : List (Nat × ContextAct Unit) :=
  let p := Principal.user bob
  let e := ds.toEntity
  let write := TableApp.put "col2" "val2"
  [(0, do
      let row ← assertAllowed p e .read (client.tableGet url ds TableApp.get)
      ensureEq (Text.shownOption Text.quoted) (row.find? "col") (some "100")
        "value written by alice's service"
      assertDenied p e .write (client.tablePut url ds write)
      assertDenied p e .write (client.tableIncrement url ds TableApp.increment)
      c.access.grant p e [.write]
      c.access.invalidate),
   (1, do
      let url ← TableApp.restart c.admin service 1
      assertAllowed p e .write (client.tablePut url ds write)
      let row ← assertAllowed p e .write (client.tableIncrement url ds TableApp.increment)
      ensureEq (Text.shownOption Text.shownInt) (row.find? "col") (some 101)
        "incremented value"
      c.access.revoke p none none
      c.access.grant p e [.write]
      c.access.invalidate),
   (2, do
      let url ← TableApp.restart c.admin service 2
      assertDenied p e .read (client.tableGet url ds TableApp.get)
      assertDenied p e .read (client.tableIncrement url ds TableApp.increment))]

/-- **A dataset in a program.**  Two table services, alice's and bob's, in namespaces of
their own.  Bob's service reads alice's dataset with whatever bob held when it last
started. -/
def datasetInProgram (c : Context) : ContextAct Unit := do
  let ns1 := TestNamespace.plain (c.uniqueName "authorization11")
  let ns2 := TestNamespace.plain (c.uniqueName "authorization22")
  let version := c.settings.artifactVersion
  let app1 := ns1.id.app TableApp.app
  let app2 := ns2.id.app TableApp.app
  let service1 := app1.service TableApp.service
  let service2 := app2.service TableApp.service
  let name := "testReadDataset"
  let dataset1 := ns1.id.dataset name
  let dataset2 := ns2.id.dataset name
  let plan := PrivilegePlan.ofSteps
    [(ns1.id.toEntity, [.admin]), (ns2.id.toEntity, [.admin]),
     (service1.toEntity, [.execute, .admin]), (service2.toEntity, [.execute, .admin]),
     (app1.toEntity, [.admin]), ((ns1.id.artifact TableApp.app version).toEntity, [.admin]),
     (.kerberosPrincipal alice, [.admin]), (app2.toEntity, [.admin]),
     ((ns2.id.artifact TableApp.app version).toEntity, [.admin]),
     (.kerberosPrincipal bob, [.admin])]
  c.grantAll c.adminPrincipal plan
  c.access.grant (.user alice) dataset1.toEntity [.admin, .write]
  c.access.grant (.user bob) dataset2.toEntity [.admin]
  c.access.grant (.user bob) dataset1.toEntity [.read]
  Context.registerEntity dataset1.toEntity
  Context.registerEntity dataset2.toEntity
  Context.createNamespace c.admin ns1
  Context.createNamespace c.admin ns2
  let client1 ← c.clientFor alice
  let client2 ← c.clientFor bob
  let url1 ← TableApp.start c app1 name alice
  let written ← Session.attempt (client1.tablePut url1 dataset1 (TableApp.put "col" "100"))
  TableApp.stop c.admin service1 1
  ofOutcome written
  let url2 ← TableApp.start c app2 name bob
  let (outcome, restarts) ← inStages (bobStages c client2 service2 dataset1 url2) 0
  let stopped ← Session.attempt (TableApp.stop c.admin service2 (restarts + 1))
  ofOutcome outcome
  ofOutcome stopped

end AccessHarness.Scenario
