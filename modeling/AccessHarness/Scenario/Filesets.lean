import AccessHarness.Pipeline.Rows
import AccessHarness.Pipeline.Schema
import AccessHarness.Routes.Program
import AccessHarness.Scenario.Checks

/-!
# Pipeline scenarios

Whether the plugins of pipelines become available, and whether a row goes from a table
to one time-partitioned fileset and on to another, on either engine.
-/

namespace AccessHarness.Scenario

open ContextAct

/-- **Pipeline plugins are available.** -/
def pipelinePluginsAvailable (c : Context) : ContextAct Unit := do
  let ns := TestNamespace.plain (c.uniqueName "etl")
  c.createNamespaceAsAdmin ns
  let v ← c.admin.platformVersion
  Pipeline.waitForPlugins c.admin ns.id v.version

namespace Fileset

/-- The application that gives access to the datasets. -/
def accessApp : String := "DatasetAccessApp"

/-- Its service. -/
def service : String := "TPFSService"

/-- The fileset the first pipeline writes. -/
def first : String := "tpfs1"

/-- The fileset the second pipeline writes. -/
def second : String := "tpfs2"

/-- The application of the first pipeline. -/
def firstApp : String := "DatasetToTPFSWithProjection"

/-- The application of the second pipeline. -/
def secondApp : String := "TPFSToTPFSWithProjection"

/-- How much later than the first the second run starts, logically, in milliseconds: the
first run's partition then lies in what the second reads back. -/
def offset : Int := 600000

/-- A stage of a pipeline. -/
def stage (name plugin type : String) (properties : List (String × String)) :
    PipelineGraph.Step :=
  .stage ⟨name, .ofProperties plugin type properties⟩

/-- From the table through a projection to the first fileset. -/
def tableToFileset (engine : Engine) (schema : String) : Outcome BatchConfig :=
  BatchConfig.build "*/10 * * * *" engine (.ofSteps
    [stage "TableSource" "Table" Pipeline.batchSource
       [("name", Pipeline.sourceDataset), ("schema", schema)],
     stage "sink" "TPFSParquet" Pipeline.batchSink [("schema", schema), ("name", first)],
     stage "testTransform" "Projection" Pipeline.transform [("drop", "headers")],
     .connection ⟨"TableSource", "testTransform"⟩, .connection ⟨"testTransform", "sink"⟩])

/-- From the first fileset, an hour back, to the second. -/
def filesetToFileset (engine : Engine) (schema : String) : Outcome BatchConfig :=
  BatchConfig.build "0 * * * *" engine (.ofSteps
    [stage "source" "TPFSParquet" Pipeline.batchSource
       [("name", first), ("schema", schema), ("duration", "1h")],
     stage "sink" "TPFSParquet" Pipeline.batchSink [("name", second), ("schema", schema)],
     .connection ⟨"source", "sink"⟩])

/-- Deploy a pipeline, start its workflow at a logical time and wait until it
completes. -/
def runPipeline (c : Context) (app : ApplicationId) (version : String) (config : BatchConfig)
    (start : Int) : ContextAct Unit := do
  c.admin.deployApp app BatchConfig.toJson (Pipeline.batchRequest version config)
  Context.registerEntity app.toEntity
  let workflow := app.workflow Pipeline.workflow
  c.admin.startProgram workflow
    (OrderedMap.ofList [("logical.start.time", Text.shownInt start)])
  let _ ← c.admin.waitForRun workflow .completed
    (.workflowCompletion (workflow.display ++ " completed"))
  return ()

/-- Demand that the first record of a fileset has the ticker of the source row. -/
def verifyTicker (c : Context) (url : Url) (name : String) (start stop : Int) :
    ContextAct Unit := do
  let records ← Pipeline.readFileset c.admin url name start stop
  let seen := (records.head?).map (·.ticker)
  ensure (seen == some "AAPL") (name ++ " in [" ++ Text.shownInt start ++ ", " ++
    Text.shownInt stop ++ "): expected AAPL first, got " ++
    Text.shownOption Text.quoted seen)

/-- What is done while the service runs. -/
def whileRunning (c : Context) (engine : Engine) (ns : NamespaceId) (version : String)
    (service : ProgramId) : ContextAct Unit := do
  let _ ← c.admin.waitForRun service .running
    (.programStartStop (service.display ++ " running"))
  let url ← c.admin.serviceUrl service (.programStartStop (service.display ++ " available"))
  Pipeline.ingestSourceRow c.admin url ns
  let now ← Session.timeOfDay
  let start : Int := now
  let schema := Schema.sourceRows.text
  let config ← ofOutcome (tableToFileset engine schema)
  runPipeline c (ns.app firstApp) version config start
  let config ← ofOutcome (filesetToFileset engine schema)
  runPipeline c (ns.app secondApp) version config (start + offset)
  verifyTicker c url first start (start + offset)
  verifyTicker c url second (start + offset) (start + offset + offset)

/-- What the administrator needs for both pipelines and the service. -/
def plan (ns : NamespaceId) : PrivilegePlan :=
  let all : List Action := [.read, .write, .admin]
  let run : List Action := [.execute, .admin]
  let access := ns.app accessApp
  .ofSteps
    [(ns.toEntity, [.admin]),
     ((ns.dataset Pipeline.sourceDataset).toEntity, all),
     ((ns.dataset first).toEntity, all), ((ns.dataset second).toEntity, all),
     (access.toEntity, [.admin]), ((access.service service).toEntity, run),
     ((ns.app firstApp).toEntity, [.admin]),
     (((ns.app firstApp).workflow Pipeline.workflow).toEntity, run),
     ((ns.app secondApp).toEntity, [.admin]),
     (((ns.app secondApp).workflow Pipeline.workflow).toEntity, run)]

/-- **There and on.**  Table to fileset, fileset to fileset, checked through the service,
which is stopped whatever happened while it ran. -/
def roundTrip (engine : Engine) (c : Context) : ContextAct Unit := do
  let ns := TestNamespace.plain (c.uniqueName "etl")
  let access := ns.id.app accessApp
  let service := access.service Fileset.service
  c.grantAll c.adminPrincipal (plan ns.id)
  Context.createNamespace c.admin ns
  let v ← c.admin.platformVersion
  Pipeline.waitForPlugins c.admin ns.id v.version
  c.admin.createDataset (ns.id.dataset Pipeline.sourceDataset) .table
  c.deployTestApp c.admin access accessApp none none
  c.admin.startProgram service OrderedMap.empty
  let outcome ← attempt (whileRunning c engine ns.id v.version service)
  let stopped ← Session.attempt (c.admin.stopProgram service)
  ofOutcome outcome
  ofOutcome stopped

end Fileset

end AccessHarness.Scenario
