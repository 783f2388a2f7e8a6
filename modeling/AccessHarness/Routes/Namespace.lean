import AccessHarness.Documents.Namespace
import AccessHarness.Rest.Client

/-!
# Namespace routes
-/

namespace AccessHarness.RestClient

/-- Create a namespace. -/
def createNamespace (c : RestClient) (ns : NamespaceMeta) : Session Unit :=
  c.putJson (Route.path ["namespaces", ns.name]) ns.toJson

/-- Describe a namespace. -/
def describeNamespace (c : RestClient) (ns : NamespaceId) : Session NamespaceMeta :=
  c.get NamespaceMeta.decoder (Route.path ["namespaces", ns.name])

/-- Whether a namespace exists. -/
def namespaceExists (c : RestClient) (ns : NamespaceId) : Session Bool := do
  let found ← c.getOption NamespaceMeta.decoder (Route.path ["namespaces", ns.name])
  return found.isSome

/-- Delete a namespace and everything in it. -/
def deleteNamespace (c : RestClient) (ns : NamespaceId) : Session Unit :=
  c.delete (Route.path ["unrecoverable", "namespaces", ns.name])

end AccessHarness.RestClient
