import AccessHarness.Identity.Wire

/-!
# Documents about access

Requests that grant and revoke, and the token that says who asks.

What a revocation leaves out it means in full: without a principal every principal loses
its privileges on the entity, without actions every action is revoked.  An empty set of
actions is neither: it revokes nothing.
-/

namespace AccessHarness

open Json

/-- Grants actions on an entity. -/
structure GrantRequest where
  entity : EntityId
  principal : Principal
  actions : ActionSet
  deriving DecidableEq, Repr

namespace GrantRequest

/-- The document of a request. -/
def toJson (g : GrantRequest) : Json :=
  .obj [("entity", g.entity.toJson), ("principal", g.principal.toJson),
    ("actions", g.actions.toJson)]

/-- Read a request. -/
def decoder : Decoder GrantRequest := fun room j => do
  let r ← Row.read ["entity", "principal", "actions"] room j
  let entity ← r.required "entity" EntityId.decoder
  let principal ← r.required "principal" Principal.decoder
  let actions ← r.required "actions" ActionSet.decoder
  return ⟨entity, principal, actions⟩

instance : Document GrantRequest := ⟨toJson, decoder⟩

end GrantRequest

/-- Revokes actions on an entity. -/
structure RevokeRequest where
  entity : EntityId
  principal : Option Principal
  actions : Option ActionSet
  deriving DecidableEq, Repr

namespace RevokeRequest

/-- The document of a request; what is not named is left out. -/
def toJson (v : RevokeRequest) : Json :=
  .obj ([("entity", v.entity.toJson)] ++ optionalField "principal" Principal.toJson v.principal ++
    optionalField "actions" ActionSet.toJson v.actions)

/-- Read a request. -/
def decoder : Decoder RevokeRequest := fun room j => do
  let r ← Row.read ["entity", "principal", "actions"] room j
  let entity ← r.required "entity" EntityId.decoder
  let principal ← r.optional "principal" Principal.decoder
  let actions ← r.optional "actions" ActionSet.decoder
  return ⟨entity, principal, actions⟩

instance : Document RevokeRequest := ⟨toJson, decoder⟩

end RevokeRequest

/-- Says who asks. -/
structure AccessToken where
  token : String
  type : String
  /-- For how many seconds it is good. -/
  expiresIn : Option Nat
  deriving DecidableEq, Repr

namespace AccessToken

/-- The document of a token. -/
def toJson (a : AccessToken) : Json :=
  .obj [("access_token", .str a.token), ("token_type", .str a.type),
    ("expires_in", ofOption .ofNat a.expiresIn)]

/-- Read a token. -/
def decoder : Decoder AccessToken := fun room j => do
  let r ← Row.read ["access_token", "token_type", "expires_in"] room j
  let token ← r.required "access_token" Decoder.string
  let type ← r.defaulted "token_type" Decoder.string "Bearer"
  let expiresIn ← r.optional "expires_in" (Decoder.nat UInt64.size)
  return ⟨token, type, expiresIn⟩

instance : Document AccessToken := ⟨toJson, decoder⟩

end AccessToken

end AccessHarness
