import AccessHarness.Documents.Platform
import AccessHarness.Rest.Client

/-!
# Routes about the platform itself
-/

namespace AccessHarness.RestClient

/-- The version of the platform. -/
def platformVersion (c : RestClient) : Session VersionInfo :=
  c.get VersionInfo.decoder (Route.path ["version"])

/-- The settings of the platform by name; of a setting listed twice the last counts. -/
def platformConfig (c : RestClient) : Session (OrderedMap String ConfigEntry) := do
  let entries ← c.get (Json.Decoder.list ConfigEntry.decoder) (Route.path ["config", "cdap"])
  return OrderedMap.ofList (entries.map fun e => (e.name, e))

end AccessHarness.RestClient
