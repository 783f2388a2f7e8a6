import AccessHarness.Proofs.Access.Store
import AccessHarness.Proofs.Rest.Requests
import AccessHarness.Routes.Namespace
import AccessHarness.Routes.Privilege
import Mathlib.Data.List.Infix

/-!
# Platforms that keep a store

An environment answers requests; nothing in it says that a platform holds privileges.  A platform
that *keeps* a store is one about which this can be said: after every transcript it holds some
store, and the store changes as the answers claim.  It is *faithful* if its answers can be read
besides.

* `Change.AskedBy` — a request that some client sends when it asks for a change.
* `Keeping env held` — the environment `env` is a platform that holds `held t` after `t`.
* `Faithful env held` — what it accepts is no failure of its client either.
* `RestClient.ask_apply` — asking for a grant or a revocation is one exchange, or none.
* `Faithful.asked` — what can come of asking for a change, in one place.

### What is load-bearing

A faithful platform is free to refuse whatever it likes, and whatever is not an acceptance
counts as a refusal: an error of any kind, and a connection that was closed.  Nothing below
looks at the reply again; `Asked` has three cases, and they are all that can happen.

**Requests that nobody confuses.**  Whether a request asks for a change is decided by who sends
it, not by how a platform reads it (`AskedBy`).  A platform that accepts a request which asks
for two different changes has to satisfy both.
-/

namespace AccessHarness

namespace Change

/-- The method of the request for a change. -/
def method : Change → String
  | .grant _ | .revoke _ => "POST"
  | .delete _ => "DELETE"

/-- The route of the request for a change. -/
def route : Change → List String
  | .grant _ => ["security", "authorization", "privileges", "grant"]
  | .revoke _ => ["security", "authorization", "privileges", "revoke"]
  | .delete ns => ["unrecoverable", "namespaces", ns.name]

/-- What the request for a change carries. -/
def body : Change → Body
  | .grant g => .json g.toJson
  | .revoke v => .json v.toJson
  | .delete _ => .empty

/-- The request with which a client asks for a change. -/
def requestOf (ch : Change) (c : RestClient) : Outcome Request :=
  c.request ch.method (Route.path ch.route) ch.body

/-- **A request that asks for a change**: some client sends it for that. -/
def AskedBy (ch : Change) (r : Request) : Prop := ∃ c, ch.requestOf c = .ok r

theorem method_eq_of_askedBy {ch : Change} {r : Request} (h : ch.AskedBy r) :
    r.method = ch.method := by
  obtain ⟨c, sent⟩ := h
  exact (RestClient.request_eq_ok sent).1

theorem body_eq_of_askedBy {ch : Change} {r : Request} (h : ch.AskedBy r) :
    r.body = ch.body := by
  obtain ⟨c, sent⟩ := h
  exact (RestClient.request_eq_ok sent).2.1

/-- Calls of a method with a body that ask for no change, wherever they go. -/
def Neutral (method : String) (body : Body) : Prop :=
  ∀ ch : Change, ch.method = method → ch.body ≠ body

theorem method_cases (ch : Change) : ch.method = "POST" ∨ ch.method = "DELETE" := by
  cases ch with
  | grant g => exact .inl rfl
  | revoke v => exact .inl rfl
  | delete ns => exact .inr rfl

theorem neutral_get (body : Body) : Neutral "GET" body := by
  intro ch same
  rcases ch.method_cases with h | h <;> rw [h] at same <;> exact absurd same (by decide)

theorem neutral_put (body : Body) : Neutral "PUT" body := by
  intro ch same
  rcases ch.method_cases with h | h <;> rw [h] at same <;> exact absurd same (by decide)

theorem neutral_post_empty : Neutral "POST" .empty := by
  intro ch same
  cases ch with
  | grant g => exact Body.noConfusion
  | revoke v => exact Body.noConfusion
  | delete ns =>
    have : ¬ "DELETE" = "POST" := by decide
    exact absurd same this

end Change

/-- The request with which a client asks what a principal holds. -/
def Principal.listingOf (p : Principal) (c : RestClient) : Outcome Request :=
  c.request "GET"
    (Route.path ["security", "authorization", p.kind.segment, p.name, "privileges"]) .empty

/-- **A request that asks what a principal holds.** -/
def Principal.ListedBy (p : Principal) (r : Request) : Prop := ∃ c, p.listingOf c = .ok r

/-- **A platform that holds a store**, which changes as the answers claim and which is listed as it
is. -/
structure Keeping (env : Environment) (held : Transcript → Store) : Prop where
  /-- What is accepted is carried out. -/
  applied : ∀ {t r} {ch : Change}, ch.AskedBy r → (env.respond t r).isAccepted = true →
    held (env.after t r) = ch.apply (held t)
  /-- What is refused has no effect, and no other request has one. -/
  kept : ∀ {t r}, ((env.respond t r).isAccepted = true → ∀ ch : Change, ¬ ch.AskedBy r) →
    held (env.after t r) = held t
  /-- Nobody else changes the store meanwhile. -/
  slept : ∀ t d, held (.slept d :: t) = held t
  /-- A listing that succeeds is exact. -/
  listed : ∀ {t r p response listing}, Principal.ListedBy p r →
    env.respond t r = .answered response → Status.isSuccess response.status = true →
    decodeBody Privilege.setDecoder response.body = .ok listing →
    ∀ e a, OrderedMap.contains listing ⟨e, a⟩ = true ↔ ⟨p, e, a⟩ ∈ held t

/-- The store after a request for a change was answered. -/
theorem Keeping.held_after {env : Environment} {held : Transcript → Store}
    (K : Keeping env held) {ch : Change} {r : Request} (asked : ch.AskedBy r) (t : Transcript) :
    held (env.after t r) =
      if (env.respond t r).isAccepted = true then ch.apply (held t) else held t := by
  split
  · rename_i accepted
    exact K.applied asked accepted
  · rename_i refused
    exact K.kept fun accepted => absurd accepted refused

/-- **A platform that holds a store and says truthfully what becomes of it**: a change that was
asked for and failed was refused. -/
structure Faithful (env : Environment) (held : Transcript → Store) : Prop
    extends Keeping env held where
  /-- Grants and revocations are accepted with a document or with nothing. -/
  readable : ∀ {t r response} {ch : Change}, ch.AskedBy r → ch.method = "POST" →
    env.respond t r = .answered response → Status.isSuccess response.status = true →
    ∃ j, decodeBody Json.Decoder.any response.body = .ok j

/-- **A platform that accepts whatever is posted.** -/
def Obliging (env : Environment) : Prop :=
  ∀ t r, r.method = "POST" → (env.respond t r).isAccepted = true

/-! ### Asking for a change -/

/-- What a client makes of the answer to a grant or a revocation. -/
def Reply.consent (reply : Reply) : Outcome Unit := (reply.read Json.Decoder.any).map fun _ => ()

namespace RestClient

/-- Ask for a change. -/
def ask (c : RestClient) : Change → Session Unit
  | .grant g => c.grantPrivileges g
  | .revoke v => c.revokePrivileges v
  | .delete ns => c.deleteNamespace ns

private theorem posted_apply (c : RestClient) {env : Environment} {ch : Change} (document : Json)
    (post : ch.method = "POST") (carries : ch.body = .json document)
    (asks : c.ask ch = do
      let _ ← c.postJson Json.Decoder.any (Route.path ch.route) document
      return ()) (t : Transcript) :
    c.ask ch env t =
      match ch.requestOf c with
      | .error f => (.error f, t)
      | .ok r => ((env.respond t r).consent, env.after t r) := by
  have same : ch.requestOf c = c.request "POST" (Route.path ch.route) (.json document) := by
    rw [Change.requestOf, post, carries]
  rw [asks, Program.bind_apply, postJson_apply, ← same]
  cases ch.requestOf c with
  | error f => rfl
  | ok r =>
    unfold Reply.consent
    simp only
    cases (env.respond t r).read Json.Decoder.any <;> rfl

/-- **Asking for a grant or a revocation is one exchange, or none.** -/
theorem ask_apply (c : RestClient) {env : Environment} {ch : Change} (post : ch.method = "POST")
    (t : Transcript) :
    c.ask ch env t =
      match ch.requestOf c with
      | .error f => (.error f, t)
      | .ok r => ((env.respond t r).consent, env.after t r) := by
  cases ch with
  | grant g =>
    have asks : c.ask (.grant g) = do
        let _ ← c.postJson Json.Decoder.any (Route.path (Change.grant g).route) g.toJson
        return () := by
      show c.grantPrivileges g = _
      unfold RestClient.grantPrivileges RestClient.privilegePath Change.route
      rfl
    rw [c.posted_apply g.toJson post rfl asks]
  | revoke v =>
    have asks : c.ask (.revoke v) = do
        let _ ← c.postJson Json.Decoder.any (Route.path (Change.revoke v).route) v.toJson
        return () := by
      show c.revokePrivileges v = _
      unfold RestClient.revokePrivileges RestClient.privilegePath Change.route
      rfl
    rw [c.posted_apply v.toJson post rfl asks]
  | delete ns =>
    have other : ¬ "DELETE" = "POST" := by decide
    exact absurd post other

/-- **Asking for a deletion is one exchange, or none.** -/
theorem deleteNamespace_apply (c : RestClient) (ns : NamespaceId) (env : Environment)
    (t : Transcript) :
    c.deleteNamespace ns env t =
      match (Change.delete ns).requestOf c with
      | .error f => (.error f, t)
      | .ok r => ((env.respond t r).outcome.map fun _ => (), env.after t r) := by
  have same : (Change.delete ns).requestOf c =
      c.request "DELETE" (Route.path ["unrecoverable", "namespaces", ns.name]) .empty := rfl
  show c.delete (Route.path ["unrecoverable", "namespaces", ns.name]) env t = _
  rw [same]
  refine (c.delete_apply _ env t).trans ?_
  -- the request is kept closed: its path is not to be computed
  generalize c.request "DELETE" _ .empty = sent
  cases sent <;> rfl

end RestClient

/-- **What can come of asking for a change**, after `t`: nothing was sent, or the platform
refused, or it accepted. -/
inductive Asked (env : Environment) (held : Transcript → Store) (c : RestClient) (ch : Change)
    (t : Transcript) : Outcome Unit × Transcript → Prop
  | unsent (f : Fault) (mute : ¬ c.CanSend) : Asked env held c ch t (.error f, t)
  | refused (f : Fault) (r : Request) (sends : c.CanSend) (asked : ch.AskedBy r)
      (refusal : (env.respond t r).isAccepted = false) (same : held (env.after t r) = held t) :
      Asked env held c ch t (.error f, env.after t r)
  | accepted (r : Request) (sends : c.CanSend) (asked : ch.AskedBy r)
      (acceptance : (env.respond t r).isAccepted = true)
      (done : held (env.after t r) = ch.apply (held t)) :
      Asked env held c ch t (.ok (), env.after t r)

namespace Faithful

variable {env : Environment} {held : Transcript → Store} (F : Faithful env held)

include F

/-- Of the answer to a grant or a revocation nothing is read but that it can be read. -/
private theorem consent_respond {ch : Change} {r : Request} (asked : ch.AskedBy r)
    (post : ch.method = "POST") (t : Transcript) :
    (env.respond t r).consent = (env.respond t r).outcome.map fun _ => () := by
  unfold Reply.consent Reply.read
  cases accepted : (env.respond t r).isAccepted with
  | false =>
    obtain ⟨f, refused⟩ := Reply.outcome_of_not_isAccepted accepted
    rw [refused]
    rfl
  | true =>
    obtain ⟨response, answered, taken⟩ := Reply.outcome_of_isAccepted accepted
    rw [answered] at accepted
    -- an accepted change whose answer cannot be read would be a fault all the same
    obtain ⟨j, read⟩ := F.readable asked post answered accepted
    rw [taken]
    show (decodeBody Json.Decoder.any response.body).map _ = _
    rw [read]
    rfl

/-- The session of a change is its request, and whether that was accepted. -/
private theorem ask_apply (c : RestClient) (ch : Change) (t : Transcript) :
    c.ask ch env t =
      match ch.requestOf c with
      | .error f => (.error f, t)
      | .ok r => ((env.respond t r).outcome.map fun _ => (), env.after t r) := by
  have posted (post : ch.method = "POST") : c.ask ch env t =
      match ch.requestOf c with
      | .error f => (.error f, t)
      | .ok r => ((env.respond t r).outcome.map fun _ => (), env.after t r) := by
    rw [c.ask_apply post]
    cases sent : ch.requestOf c with
    | error f => rfl
    | ok r =>
      simp only
      rw [F.consent_respond ⟨c, sent⟩ post]
  cases ch with
  | grant g => exact posted rfl
  | revoke v => exact posted rfl
  | delete ns => exact c.deleteNamespace_apply ns env t

/-- **Asking for a change has one of three outcomes.** -/
theorem asked (c : RestClient) (ch : Change) (t : Transcript) :
    Asked env held c ch t (c.ask ch env t) := by
  rw [F.ask_apply]
  cases sent : ch.requestOf c with
  | error f =>
    refine .unsent f ?_
    intro sends
    obtain ⟨r, sent'⟩ := (c.request_route_iff ch.method ch.route ch.body).2 sends
    rw [Change.requestOf, sent'] at sent
    cases sent
  | ok r =>
    have sends : c.CanSend := (c.request_route_iff ch.method ch.route ch.body).1 ⟨r, sent⟩
    cases accepted : (env.respond t r).isAccepted with
    | false =>
      obtain ⟨f, refused⟩ := Reply.outcome_of_not_isAccepted accepted
      simp only [refused]
      refine .refused f r sends ⟨c, sent⟩ accepted (F.kept ?_)
      intro accepted'
      rw [accepted] at accepted'
      cases accepted'
    | true =>
      obtain ⟨response, -, taken⟩ := Reply.outcome_of_isAccepted accepted
      simp only [taken]
      exact .accepted r sends ⟨c, sent⟩ accepted (F.applied ⟨c, sent⟩ accepted)

end Faithful

end AccessHarness
