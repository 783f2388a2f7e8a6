import AccessHarness.Identity.Entity
import AccessHarness.Json.Document

/-!
# Documents about namespaces

A namespace with its configuration, among it the principal its programs run as.
-/

namespace AccessHarness

open Json

/-- The configuration of a namespace. -/
structure NamespaceConfig where
  /-- The principal its programs run as. -/
  principal : Option String := none
  /-- Where the keys of that principal are. -/
  keytab : Option String := none
  schedulerQueue : Option String := none
  rootDirectory : Option String := none
  deriving DecidableEq, Repr

namespace NamespaceConfig

/-- The document of a configuration; what is not set is left out. -/
def toJson (c : NamespaceConfig) : Json :=
  .obj (optionalField "principal" .str c.principal ++ optionalField "keytabURI" .str c.keytab ++
    optionalField "schedulerQueueName" .str c.schedulerQueue ++
    optionalField "rootDirectory" .str c.rootDirectory)

/-- Read a configuration. -/
def decoder : Decoder NamespaceConfig := fun room j => do
  let r ← Row.read ["principal", "keytabURI", "schedulerQueueName", "rootDirectory"] room j
  let principal ← r.optional "principal" Decoder.string
  let keytab ← r.optional "keytabURI" Decoder.string
  let schedulerQueue ← r.optional "schedulerQueueName" Decoder.string
  let rootDirectory ← r.optional "rootDirectory" Decoder.string
  return { principal, keytab, schedulerQueue, rootDirectory }

instance : Document NamespaceConfig := ⟨toJson, decoder⟩

end NamespaceConfig

/-- A namespace as it is created and listed. -/
structure NamespaceMeta where
  name : String
  description : String
  config : NamespaceConfig
  deriving DecidableEq, Repr

namespace NamespaceMeta

/-- The namespace that is described. -/
def id (m : NamespaceMeta) : NamespaceId := ⟨m.name⟩

/-- The document of a namespace. -/
def toJson (m : NamespaceMeta) : Json :=
  .obj [("name", .str m.name), ("description", .str m.description),
    ("config", m.config.toJson)]

/-- Read a namespace. -/
def decoder : Decoder NamespaceMeta := fun room j => do
  let r ← Row.read ["name", "description", "config"] room j
  let name ← r.required "name" Decoder.string
  let description ← r.defaulted "description" Decoder.string ""
  let config ← r.defaulted "config" NamespaceConfig.decoder {}
  return ⟨name, description, config⟩

instance : Document NamespaceMeta := ⟨toJson, decoder⟩

end NamespaceMeta

/-- **A namespace a scenario works in**: its name, and whom it is impersonated as. -/
structure TestNamespace where
  id : NamespaceId
  config : NamespaceConfig
  deriving DecidableEq, Repr

namespace TestNamespace

/-- A namespace that runs as nobody in particular. -/
def plain (name : String) : TestNamespace := ⟨⟨name⟩, {}⟩

/-- A namespace whose programs run as a principal. -/
def impersonated (name principal : String) (keytab : Option String) : TestNamespace :=
  ⟨⟨name⟩, { principal := some principal, keytab }⟩

/-- The principal the namespace is impersonated as, if any. -/
def principal (ns : TestNamespace) : Option String := ns.config.principal

/-- The document that creates the namespace. -/
def details (ns : TestNamespace) : NamespaceMeta :=
  ⟨ns.id.name, "integration test namespace " ++ ns.id.name, ns.config⟩

end TestNamespace

end AccessHarness
