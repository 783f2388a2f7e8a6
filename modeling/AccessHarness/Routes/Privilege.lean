import AccessHarness.Rest.Client

/-!
# Privilege routes

Changing and listing privileges.  A change is accepted by any success with a document or
nothing in it.
-/

namespace AccessHarness.RestClient

/-- The path below which privileges are changed. -/
def privilegePath (operation : String) : String :=
  Route.path ["security", "authorization", "privileges", operation]

/-- Grant actions on an entity. -/
def grantPrivileges (c : RestClient) (request : GrantRequest) : Session Unit := do
  let _ ← c.postJson Json.Decoder.any (privilegePath "grant") request.toJson
  return ()

/-- Revoke actions on an entity. -/
def revokePrivileges (c : RestClient) (request : RevokeRequest) : Session Unit := do
  let _ ← c.postJson Json.Decoder.any (privilegePath "revoke") request.toJson
  return ()

/-- The privileges of a principal. -/
def listPrivileges (c : RestClient) (p : Principal) : Session (OrderedSet Privilege) :=
  c.get Privilege.setDecoder
    (Route.path ["security", "authorization", p.kind.segment, p.name, "privileges"])

/-- Make the platform forget its cached decisions. -/
def invalidateCache (c : RestClient) (path : String) : Session Unit := c.postEmpty path

end AccessHarness.RestClient
