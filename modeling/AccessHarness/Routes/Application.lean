import AccessHarness.Documents.Application
import AccessHarness.Rest.Client

/-!
# Artifact and application routes
-/

namespace AccessHarness.RestClient

/-- Plugins of a type that extend an artifact; missing while the artifact is not yet
registered. -/
def pluginSummaries (c : RestClient) (parent : ArtifactId) (type : String)
    (scope : ArtifactScope) : Session (List PluginSummary) :=
  c.get (Json.Decoder.list PluginSummary.decoder)
    (Route.path ["namespaces", parent.ns.name, "artifacts", parent.name, "versions",
      parent.version, "extensions", type] ++ "?scope=" ++ scope.display)

/-- The artifacts of a namespace. -/
def listArtifacts (c : RestClient) (ns : NamespaceId) : Session (List ArtifactSummary) :=
  c.get (Json.Decoder.list ArtifactSummary.decoder)
    (Route.path ["namespaces", ns.name, "artifacts"])

/-- The header fields of an upload: the version, and what the artifact extends. -/
def uploadFields (version : String) (parents : List String) : List (String × String) :=
  let joined := String.intercalate "/" parents
  ("artifact-version", version) ::
    (if joined.isEmpty then [] else [("artifact-extends", joined)])

/-- Upload an artifact. -/
def addArtifact (c : RestClient) (a : ArtifactId) (parents : List String)
    (content : List UInt8) : Session Unit := do
  let url ← Session.ofOutcome (c.url (Route.path ["namespaces", a.ns.name, "artifacts", a.name]))
  let headers ← Session.ofOutcome (Header.fields (uploadFields a.version parents))
  let _ ← c.execute "POST" url headers (.bytes content)
  return ()

/-- Deploy an application. -/
def deployApp {C : Type} (c : RestClient) (app : ApplicationId) (encode : C → Json)
    (request : AppRequest C) : Session Unit :=
  c.putJson (Route.path ["namespaces", app.ns.name, "apps", app.name]) (request.toJson encode)

/-- The applications of a namespace. -/
def listApps (c : RestClient) (ns : NamespaceId) : Session (List ApplicationRecord) :=
  c.get (Json.Decoder.list ApplicationRecord.decoder)
    (Route.path ["namespaces", ns.name, "apps"])

/-- Whether an application is listed. -/
def appExists (c : RestClient) (app : ApplicationId) : Session Bool := do
  let records ← c.listApps app.ns
  return records.any fun r => r.name == app.name

/-- Delete an application. -/
def deleteApp (c : RestClient) (app : ApplicationId) : Session Unit :=
  c.delete (Route.path ["namespaces", app.ns.name, "apps", app.name])

end AccessHarness.RestClient
