import AccessHarness.Json.Document

/-!
# Documents about the platform itself

Its version and its configuration.
-/

namespace AccessHarness

open Json

/-- The version of the platform. -/
structure VersionInfo where
  version : String
  deriving DecidableEq, Repr

namespace VersionInfo

/-- The document of a version. -/
def toJson (v : VersionInfo) : Json := .obj [("version", .str v.version)]

/-- Read a version. -/
def decoder : Decoder VersionInfo := fun room j => do
  let r ← Row.read ["version"] room j
  let version ← r.required "version" Decoder.string
  return ⟨version⟩

instance : Document VersionInfo := ⟨toJson, decoder⟩

end VersionInfo

/-- A setting of the platform. -/
structure ConfigEntry where
  name : String
  value : String
  source : Option String
  deriving DecidableEq, Repr

namespace ConfigEntry

/-- The document of a setting. -/
def toJson (e : ConfigEntry) : Json :=
  .obj [("name", .str e.name), ("value", .str e.value), ("source", ofOption .str e.source)]

/-- Read a setting. -/
def decoder : Decoder ConfigEntry := fun room j => do
  let r ← Row.read ["name", "value", "source"] room j
  let name ← r.required "name" Decoder.string
  let value ← r.required "value" Decoder.string
  let source ← r.optional "source" Decoder.string
  return ⟨name, value, source⟩

instance : Document ConfigEntry := ⟨toJson, decoder⟩

end ConfigEntry

end AccessHarness
