import AccessHarness.Json.Document

/-!
# Documents about applications

What is deployed: an artifact, and the request that makes an application of it.

* `ArtifactSummary` names an artifact; without a scope it is a user's.
* `PluginSummary` is a plugin that an artifact provides.
* `AppRequest C` asks for an application with a configuration of type `C`.
* `ApplicationRecord` is an application as it is listed.
-/

namespace AccessHarness

open Json

/-- Whose an artifact is. -/
inductive ArtifactScope where
  | system | user
  deriving DecidableEq, Repr

namespace ArtifactScope

/-- The name of a scope. -/
def display : ArtifactScope → String
  | .system => "SYSTEM"
  | .user => "USER"

/-- The document of a scope. -/
def toJson (s : ArtifactScope) : Json := .str s.display

/-- Every scope with its name. -/
def wireNames : List (String × ArtifactScope) := [("SYSTEM", .system), ("USER", .user)]

/-- Read a scope. -/
def decoder : Decoder ArtifactScope := Decoder.choice wireNames

instance : Document ArtifactScope := ⟨toJson, decoder⟩

end ArtifactScope

/-- An artifact by name, version and scope. -/
structure ArtifactSummary where
  name : String
  version : String
  scope : ArtifactScope
  deriving DecidableEq, Repr

namespace ArtifactSummary

/-- A user's artifact. -/
def user (name version : String) : ArtifactSummary := ⟨name, version, .user⟩

/-- An artifact of the system. -/
def system (name version : String) : ArtifactSummary := ⟨name, version, .system⟩

/-- The document of an artifact. -/
def toJson (a : ArtifactSummary) : Json :=
  .obj [("name", .str a.name), ("version", .str a.version), ("scope", a.scope.toJson)]

/-- Read an artifact. -/
def decoder : Decoder ArtifactSummary := fun room j => do
  let r ← Row.read ["name", "version", "scope"] room j
  let name ← r.required "name" Decoder.string
  let version ← r.required "version" Decoder.string
  let scope ← r.defaulted "scope" ArtifactScope.decoder .user
  return ⟨name, version, scope⟩

instance : Document ArtifactSummary := ⟨toJson, decoder⟩

end ArtifactSummary

/-- A plugin that an artifact provides. -/
structure PluginSummary where
  name : String
  type : String
  description : String
  className : String
  artifact : ArtifactSummary
  deriving DecidableEq, Repr

namespace PluginSummary

/-- The document of a plugin. -/
def toJson (p : PluginSummary) : Json :=
  .obj [("name", .str p.name), ("type", .str p.type), ("description", .str p.description),
    ("className", .str p.className), ("artifact", p.artifact.toJson)]

/-- Read a plugin. -/
def decoder : Decoder PluginSummary := fun room j => do
  let r ← Row.read ["name", "type", "description", "className", "artifact"] room j
  let name ← r.required "name" Decoder.string
  let type ← r.required "type" Decoder.string
  let description ← r.defaulted "description" Decoder.string ""
  let className ← r.defaulted "className" Decoder.string ""
  let artifact ← r.required "artifact" ArtifactSummary.decoder
  return ⟨name, type, description, className, artifact⟩

instance : Document PluginSummary := ⟨toJson, decoder⟩

end PluginSummary

/-- **A request for an application**: the artifact it is made of, its configuration, and
the owner its programs run as. -/
structure AppRequest (C : Type) where
  artifact : ArtifactSummary
  config : Option C
  principal : Option String
  deriving DecidableEq

namespace AppRequest

variable {C : Type}

/-- The request of an owner. -/
def withPrincipal (r : AppRequest C) (principal : String) : AppRequest C :=
  { r with principal := some principal }

/-- The document of a request; what is not set is left out. -/
def toJson (encode : C → Json) (r : AppRequest C) : Json :=
  .obj ([("artifact", r.artifact.toJson)] ++ optionalField "config" encode r.config ++
    optionalField "principal" .str r.principal)

/-- Read a request. -/
def decoder (d : Decoder C) : Decoder (AppRequest C) := fun room j => do
  let r ← Row.read ["artifact", "config", "principal"] room j
  let artifact ← r.required "artifact" ArtifactSummary.decoder
  let config ← r.optional "config" d
  let principal ← r.optional "principal" Decoder.string
  return ⟨artifact, config, principal⟩

instance [Document C] : Document (AppRequest C) :=
  ⟨toJson Document.toJson, decoder Document.decoder⟩

end AppRequest

/-- An application as it is listed. -/
structure ApplicationRecord where
  name : String
  description : String
  artifact : Option ArtifactSummary
  ownerPrincipal : Option String
  deriving DecidableEq, Repr

namespace ApplicationRecord

/-- The document of a record. -/
def toJson (r : ApplicationRecord) : Json :=
  .obj [("name", .str r.name), ("description", .str r.description),
    ("artifact", ofOption ArtifactSummary.toJson r.artifact),
    ("ownerPrincipal", ofOption .str r.ownerPrincipal)]

/-- Read a record. -/
def decoder : Decoder ApplicationRecord := fun room j => do
  let r ← Row.read ["name", "description", "artifact", "ownerPrincipal"] room j
  let name ← r.required "name" Decoder.string
  let description ← r.defaulted "description" Decoder.string ""
  let artifact ← r.optional "artifact" ArtifactSummary.decoder
  let ownerPrincipal ← r.optional "ownerPrincipal" Decoder.string
  return ⟨name, description, artifact, ownerPrincipal⟩

instance : Document ApplicationRecord := ⟨toJson, decoder⟩

end ApplicationRecord

end AccessHarness
