import AccessHarness.Pipeline.Config
import AccessHarness.Routes.Application
import AccessHarness.Routes.Platform

/-!
# Pipeline artifacts and plugins

Requests for pipeline applications, waiting until the plugins they need are there, and
installing plugins from the market.

The market is outside the platform: its URL is a setting of the platform unless the
harness overrides it.  A plugin is installed through the dashboard, which is assumed to
run on the host of the platform and forwards the download.
-/

namespace AccessHarness

namespace Pipeline

/-- The artifact of batch pipelines. -/
def batchArtifact : String := "cdap-data-pipeline"

/-- The artifact of streaming pipelines. -/
def streamingArtifact : String := "cdap-data-streams"

/-- Plugin types. -/
def batchSource : String := "batchsource"

/-- Plugins that write what a batch pipeline produces. -/
def batchSink : String := "batchsink"

/-- Plugins that aggregate. -/
def batchAggregator : String := "batchaggregator"

/-- Plugins that transform records one by one. -/
def transform : String := "transform"

/-- The workflow every batch pipeline runs. -/
def workflow : String := "DataPipelineWorkflow"

/-- The dataset the projection pipelines read. -/
def sourceDataset : String := "sourceDataset"

/-- A request for a batch pipeline. -/
def batchRequest (version : String) (config : BatchConfig) : AppRequest BatchConfig :=
  ⟨.system batchArtifact version, some config, none⟩

/-- A request for a streaming pipeline. -/
def streamingRequest (version : String) (config : StreamingConfig) :
    AppRequest StreamingConfig :=
  ⟨.system streamingArtifact version, some config, none⟩

/-- A request for the last wrangler service among artifacts, if there is one. -/
def wranglerRequest (artifacts : List ArtifactSummary) : Option (AppRequest Json) :=
  (artifacts.reverse.find? fun a =>
    Text.occursIn "wrangler-service".toList a.name.toList).map fun a => ⟨a, none, none⟩

/-- The plugins a pipeline needs: the artifact that provides them, their type, one name. -/
def requiredPlugins (ns : NamespaceId) (version : String) :
    List (ArtifactId × String × String) :=
  let batch := ns.artifact batchArtifact version
  let streaming := ns.artifact streamingArtifact version
  [(batch, batchAggregator, "GroupByAggregate"), (batch, batchSink, "File"),
   (streaming, batchAggregator, "GroupByAggregate")]

/-- Whether each of a list of plugins is there; the first that is missing ends the
round. -/
def pluginsPresent (c : RestClient) : List (ArtifactId × String × String) → Session Bool
  | [] => return true
  | (parent, type, name) :: rest => do
    let plugins ← c.pluginSummaries parent type .system
    if plugins.any fun p => p.name == name then pluginsPresent c rest else return false

/-- **Wait until the pipeline artifacts of a version have their plugins.**  Every round
asks anew for all of them. -/
def waitForPlugins (c : RestClient) (ns : NamespaceId) (version : String) : Session Unit :=
  Session.waitUntil (.pluginAvailability ("pipeline plugins of version " ++ version))
    (pluginsPresent c (requiredPlugins ns version))

end Pipeline

/-- What the market says about a plugin: the artifacts it extends. -/
def marketPluginDecoder : Json.Decoder (List String) := fun room j => do
  let r ← Json.Row.read ["parents"] room j
  r.defaulted "parents" (Json.Decoder.list Json.Decoder.string) []

namespace Market

/-- A setting of the platform. -/
def setting (config : OrderedMap String ConfigEntry) (key : String) : Outcome String :=
  match config.find? key with
  | some e => .ok e.value
  | none => .error (.configuration ("platform configuration has no '" ++ key ++ "'"))

/-- Read a URL that was put together. -/
def readTarget (raw : String) : Outcome Url :=
  match Url.parse? raw with
  | .ok u => .ok u
  | .error e => .error (.configuration ("invalid URL '" ++ raw ++ "': " ++ e.message))

/-- A text without slashes at its end. -/
def withoutFinalSlashes (s : String) : String :=
  String.ofList (Text.dropEndWhile (· == '/') s.toList)

/-- Where the market describes a plugin. -/
def descriptionUrl (market package plugin version : String) : String :=
  withoutFinalSlashes market ++ "/packages/" ++ package ++ "/" ++ version ++ "/" ++ plugin ++
    "-" ++ version ++ ".json"

/-- Where the market keeps a plugin. -/
def sourcePath (package plugin version : String) : String :=
  "packages/" ++ package ++ "/" ++ version ++ "/" ++ plugin ++ "-" ++ version ++ ".jar"

/-- Where the platform takes a plugin. -/
def targetPath (ns : NamespaceId) (plugin : String) : String :=
  "v3/namespaces/" ++ ns.name ++ "/artifacts/" ++ plugin

/-- The request of the dashboard that forwards a plugin to the platform. -/
def forwardUrl (base : Url) (port source target : String) : String :=
  (if base.isSecure then "https" else "http") ++ "://" ++ base.hostText?.getD "localhost" ++
    ":" ++ port ++ "/forwardMarketToCdap?source=" ++ Text.Percent.encode source ++
    "&target=" ++ Text.Percent.encode target

/-- The setting that holds the port of the dashboard. -/
def portSetting (base : Url) : String :=
  if base.isSecure then "dashboard.ssl.bind.port" else "dashboard.bind.port"

/-- **Install a plugin from the market**: find the market, read what the plugin extends,
and have the dashboard forward it. -/
def install (c : RestClient) (ns : NamespaceId) (override : Option String)
    (package plugin version : String) : Session Unit := do
  let config ← c.platformConfig
  let market ← match override with
    | some m => pure m
    | none => Session.ofOutcome (setting config "market.base.url")
  let description ← Session.ofOutcome (readTarget (descriptionUrl market package plugin version))
  let r ← c.send "GET" description [] .empty
  if r.status != 200 then
    throw (.expectation ("GET " ++ description.text ++ " returned " ++ Status.display r.status))
  let parents ← Session.ofOutcome (decodeBody marketPluginDecoder r.body)
  let port ← Session.ofOutcome (setting config (portSetting c.base))
  let forward ← Session.ofOutcome (readTarget (forwardUrl c.base port
    (sourcePath package plugin version) (targetPath ns plugin)))
  let headers ← Session.ofOutcome (Header.fields
    [("artifact-extends", String.intercalate "/" parents), ("artifact-version", version)])
  let r ← c.send "GET" forward headers .empty
  if r.status != 200 then
    throw (.expectation ("installing " ++ plugin ++ " " ++ version ++
      " from the market returned " ++ Status.display r.status ++ ": " ++ r.body))

end Market

end AccessHarness
