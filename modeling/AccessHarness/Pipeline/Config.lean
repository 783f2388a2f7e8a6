import AccessHarness.Documents.Data
import AccessHarness.Fault

/-!
# Pipeline configurations

A pipeline is a graph of stages; a stage runs a plugin, a connection joins two stages.
Batch and streaming pipelines differ in what surrounds the graph.

`PipelineGraph.build` refuses a graph that names a stage twice or connects a stage it
does not have, and names the first thing that is wrong: stages before connections, and
of a connection its origin before its end.
-/

namespace AccessHarness

open Json

/-- Which artifact provides a plugin. -/
structure ArtifactSelector where
  scope : String
  name : String
  version : String
  deriving DecidableEq, Repr

namespace ArtifactSelector

/-- The document of a selector. -/
def toJson (a : ArtifactSelector) : Json :=
  .obj [("scope", .str a.scope), ("name", .str a.name), ("version", .str a.version)]

/-- Read a selector. -/
def decoder : Decoder ArtifactSelector := fun room j => do
  let r ← Row.read ["scope", "name", "version"] room j
  let scope ← r.required "scope" Decoder.string
  let name ← r.required "name" Decoder.string
  let version ← r.required "version" Decoder.string
  return ⟨scope, name, version⟩

instance : Document ArtifactSelector := ⟨toJson, decoder⟩

end ArtifactSelector

/-- A plugin with its properties. -/
structure PipelinePlugin where
  name : String
  type : String
  properties : Properties
  artifact : Option ArtifactSelector
  deriving DecidableEq

namespace PipelinePlugin

/-- A plugin of any artifact, from a list of properties. -/
def ofProperties (name type : String) (properties : List (String × String)) : PipelinePlugin :=
  ⟨name, type, OrderedMap.ofList properties, none⟩

/-- The document of a plugin. -/
def toJson (p : PipelinePlugin) : Json :=
  .obj ([("name", .str p.name), ("type", .str p.type), ("properties", p.properties.toJson)] ++
    optionalField "artifact" ArtifactSelector.toJson p.artifact)

/-- Read a plugin. -/
def decoder : Decoder PipelinePlugin := fun room j => do
  let r ← Row.read ["name", "type", "properties", "artifact"] room j
  let name ← r.required "name" Decoder.string
  let type ← r.required "type" Decoder.string
  let properties ← r.required "properties" Properties.decoder
  let artifact ← r.optional "artifact" ArtifactSelector.decoder
  return ⟨name, type, properties, artifact⟩

instance : Document PipelinePlugin := ⟨toJson, decoder⟩

end PipelinePlugin

/-- A stage of a pipeline. -/
structure PipelineStage where
  name : String
  plugin : PipelinePlugin
  deriving DecidableEq

namespace PipelineStage

/-- The document of a stage. -/
def toJson (s : PipelineStage) : Json := .obj [("name", .str s.name), ("plugin", s.plugin.toJson)]

/-- Read a stage. -/
def decoder : Decoder PipelineStage := fun room j => do
  let r ← Row.read ["name", "plugin"] room j
  let name ← r.required "name" Decoder.string
  let plugin ← r.required "plugin" PipelinePlugin.decoder
  return ⟨name, plugin⟩

instance : Document PipelineStage := ⟨toJson, decoder⟩

end PipelineStage

/-- A connection between two stages. -/
structure Connection where
  origin : String
  target : String
  deriving DecidableEq, Repr

namespace Connection

/-- The document of a connection. -/
def toJson (c : Connection) : Json := .obj [("from", .str c.origin), ("to", .str c.target)]

/-- Read a connection. -/
def decoder : Decoder Connection := fun room j => do
  let r ← Row.read ["from", "to"] room j
  let origin ← r.required "from" Decoder.string
  let target ← r.required "to" Decoder.string
  return ⟨origin, target⟩

instance : Document Connection := ⟨toJson, decoder⟩

end Connection

/-- What a batch pipeline runs on. -/
inductive Engine where
  | mapreduce | spark
  deriving DecidableEq, Repr

namespace Engine

/-- The name of an engine. -/
def display : Engine → String
  | .mapreduce => "MAPREDUCE"
  | .spark => "SPARK"

/-- Every engine with its name. -/
def wireNames : List (String × Engine) := [("MAPREDUCE", .mapreduce), ("SPARK", .spark)]

/-- The document of an engine. -/
def toJson (e : Engine) : Json := .str e.display

/-- Read an engine. -/
def decoder : Decoder Engine := Decoder.choice wireNames

instance : Document Engine := ⟨toJson, decoder⟩

end Engine

/-- **Stages and connections**, each in the order they were added. -/
structure PipelineGraph where
  stages : List PipelineStage
  connections : List Connection
  deriving DecidableEq

namespace PipelineGraph

/-- The graph without stages. -/
def empty : PipelineGraph := ⟨[], []⟩

/-- Something that is added to a graph. -/
inductive Step where
  | stage (s : PipelineStage)
  | connection (c : Connection)
  deriving DecidableEq

/-- Add a stage. -/
def addStage (g : PipelineGraph) (s : PipelineStage) : PipelineGraph :=
  { g with stages := g.stages ++ [s] }

/-- Add a connection. -/
def addConnection (g : PipelineGraph) (c : Connection) : PipelineGraph :=
  { g with connections := g.connections ++ [c] }

/-- Add a stage or a connection. -/
def add (g : PipelineGraph) : Step → PipelineGraph
  | .stage s => g.addStage s
  | .connection c => g.addConnection c

/-- The graph of a list of steps. -/
def ofSteps (steps : List Step) : PipelineGraph := steps.foldl add empty

/-- The first stage with a name that occurred before, after the names `seen`. -/
def firstRepeated (seen : List String) : List PipelineStage → Option String
  | [] => none
  | s :: rest => if seen.contains s.name then some s.name else firstRepeated (s.name :: seen) rest

/-- The end of a connection that is no stage, its origin first. -/
def unknownEnd (names : List String) (c : Connection) : Option String :=
  if !names.contains c.origin then some c.origin
  else if !names.contains c.target then some c.target
  else none

/-- The first connection with an unknown end, and that end. -/
def firstDangling (names : List String) : List Connection → Option (Connection × String)
  | [] => none
  | c :: rest =>
    match unknownEnd names c with
    | some e => some (c, e)
    | none => firstDangling names rest

/-- **Check the graph**: stages are named once, connections join stages. -/
def build (g : PipelineGraph) : Outcome PipelineGraph :=
  match firstRepeated [] g.stages with
  | some name => .error (.configuration ("duplicate pipeline stage '" ++ name ++ "'"))
  | none =>
    match firstDangling (g.stages.map (·.name)) g.connections with
    | some (c, e) =>
      .error (.configuration ("connection " ++ c.origin ++ " -> " ++ c.target ++
        " references unknown stage '" ++ e ++ "'"))
    | none => .ok g

end PipelineGraph

/-- The configuration of a batch pipeline. -/
structure BatchConfig where
  schedule : String
  engine : Engine
  graph : PipelineGraph
  deriving DecidableEq

namespace BatchConfig

/-- A batch pipeline with a checked graph. -/
def build (schedule : String) (engine : Engine) (g : PipelineGraph) : Outcome BatchConfig := do
  let graph ← g.build
  return ⟨schedule, engine, graph⟩

/-- The document of a configuration. -/
def toJson (c : BatchConfig) : Json :=
  .obj [("schedule", .str c.schedule), ("engine", c.engine.toJson),
    ("stages", Json.ofList PipelineStage.toJson c.graph.stages),
    ("connections", Json.ofList Connection.toJson c.graph.connections)]

/-- Read a configuration. -/
def decoder : Decoder BatchConfig := fun room j => do
  let r ← Row.read ["schedule", "engine", "stages", "connections"] room j
  let schedule ← r.required "schedule" Decoder.string
  let engine ← r.required "engine" Engine.decoder
  let stages ← r.required "stages" (Decoder.list PipelineStage.decoder)
  let connections ← r.required "connections" (Decoder.list Connection.decoder)
  return ⟨schedule, engine, ⟨stages, connections⟩⟩

instance : Document BatchConfig := ⟨toJson, decoder⟩

end BatchConfig

/-- The configuration of a streaming pipeline. -/
structure StreamingConfig where
  batchInterval : String
  graph : PipelineGraph
  deriving DecidableEq

namespace StreamingConfig

/-- A streaming pipeline with a checked graph. -/
def build (batchInterval : String) (g : PipelineGraph) : Outcome StreamingConfig := do
  let graph ← g.build
  return ⟨batchInterval, graph⟩

/-- The document of a configuration. -/
def toJson (c : StreamingConfig) : Json :=
  .obj [("batchInterval", .str c.batchInterval),
    ("stages", Json.ofList PipelineStage.toJson c.graph.stages),
    ("connections", Json.ofList Connection.toJson c.graph.connections)]

/-- Read a configuration. -/
def decoder : Decoder StreamingConfig := fun room j => do
  let r ← Row.read ["batchInterval", "stages", "connections"] room j
  let batchInterval ← r.required "batchInterval" Decoder.string
  let stages ← r.required "stages" (Decoder.list PipelineStage.decoder)
  let connections ← r.required "connections" (Decoder.list Connection.decoder)
  return ⟨batchInterval, ⟨stages, connections⟩⟩

instance : Document StreamingConfig := ⟨toJson, decoder⟩

end StreamingConfig

end AccessHarness
