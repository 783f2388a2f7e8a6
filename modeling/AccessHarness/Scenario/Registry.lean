import AccessHarness.Scenario.Applications
import AccessHarness.Scenario.Filesets

/-!
# The scenarios

Every scenario with its name and suite, in the order of the suites; how one is found by
name, and how one is run.

**A run.**  A scenario gets a context of its own, and the context is torn down whatever
the scenario returned.
-/

namespace AccessHarness

/-- The suites of scenarios. -/
inductive Suite where
  | authorization | apps | etl
  deriving DecidableEq, Repr

namespace Suite

/-- Every suite, in order. -/
def all : List Suite := [.authorization, .apps, .etl]

/-- The name of a suite. -/
def name : Suite → String
  | .authorization => "authorization"
  | .apps => "apps"
  | .etl => "etl"

/-- The suite as a value in a message. -/
def shown : Suite → String
  | .authorization => "Authorization"
  | .apps => "Apps"
  | .etl => "Etl"

/-- The suite of a name, in any case and with blanks around it. -/
def ofName? (raw : String) : Option Suite :=
  all.find? fun s => Text.sameLetters s.name (Text.trim raw)

end Suite

/-- A scenario. -/
structure Scenario where
  name : String
  suite : Suite
  run : Context → ContextAct Unit

namespace Scenario

/-- The scenario as a value in a message. -/
def shown (s : Scenario) : String :=
  Text.shownRecord "Scenario" [("name", Text.quoted s.name), ("suite", s.suite.shown)]

/-- **Every scenario**, in the order of the suites. -/
def registry : List Scenario :=
  [⟨"namespace_privileges", .authorization, namespacePrivileges⟩,
   ⟨"list_privileges", .authorization, listPrivileges⟩,
   ⟨"dataset_privileges", .authorization, datasetPrivileges⟩,
   ⟨"stream_privileges", .authorization, streamPrivileges⟩,
   ⟨"dataset_lifecycle_end_to_end", .authorization, datasetLifecycle⟩,
   ⟨"deploy_app", .apps, deployApp⟩,
   ⟨"deploy_app_unauthorized", .apps, deployAppUnauthorized⟩,
   ⟨"dataset_in_program", .apps, datasetInProgram⟩,
   ⟨"pipeline_plugins_available", .etl, pipelinePluginsAvailable⟩,
   ⟨"tpfs_with_projection", .etl, Fileset.roundTrip .mapreduce⟩,
   ⟨"tpfs_with_projection_spark", .etl, Fileset.roundTrip .spark⟩]

/-- The scenario of a name. -/
def find? (name : String) : Option Scenario := registry.find? fun s => s.name == name

end Scenario

end AccessHarness
