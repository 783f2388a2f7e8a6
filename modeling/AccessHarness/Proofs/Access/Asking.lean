import AccessHarness.Proofs.Access.Approvals
import AccessHarness.Proofs.Access.Calls

/-!
# Asking for privileges

What a client makes of the answer to a grant or a revocation, on any platform whatever: nothing is
assumed of the answers here.

* `Reply.Consents` — the answers that say a grant or a revocation was carried out: a success, with
  a document or with nothing in it.
* `Reply.consent_eq_ok_iff` — asking for one ends well exactly with consent.
* `AccessModel.RefreshTurn` — the one refresh of a policy: what happens then, and what comes of it.
* `AccessModel.Refreshes` — what happens when a policy does its part after a change.
* `AccessModel.leads_refresh_within` — a refresh does that and nothing else.

### What is load-bearing

**A success that cannot be read is no consent.**  The answer to a change is decoded, so a change
that was carried out and answered with some other text is a fault of its caller.
-/

namespace AccessHarness

open Program (Leads)
open Transcript (ExtendsWithin)

namespace Reply

/-- **An answer that says a grant or a revocation was carried out.** -/
def Consents (reply : Reply) : Prop := ∃ document, reply.Yields Json.Decoder.any document

theorem consent_eq_ok_iff {reply : Reply} : reply.consent = .ok () ↔ reply.Consents := by
  unfold consent Consents
  cases read : reply.read Json.Decoder.any with
  | ok document => exact iff_of_true rfl ⟨document, read_eq_ok_iff.1 read⟩
  | error f =>
    refine iff_of_false nofun ?_
    rintro ⟨document, yields⟩
    rw [read_eq_ok_iff.2 yields] at read
    cases read

instance (reply : Reply) : Decidable reply.Consents :=
  decidable_of_iff (reply.consent = .ok ()) consent_eq_ok_iff

theorem not_consents_of_consent {reply : Reply} {f : Fault} (h : reply.consent = .error f) :
    ¬ reply.Consents := by
  intro consents
  rw [consent_eq_ok_iff.2 consents] at h
  cases h

end Reply

namespace RestClient

/-- Whether a change can be asked for does not depend on the change. -/
theorem exists_requestOf_iff {c : RestClient} (ch : Change) :
    (∃ r, ch.requestOf c = .ok r) ↔ c.CanSend :=
  c.request_route_iff ch.method ch.route ch.body

end RestClient

namespace AccessModel

variable (m : AccessModel) {env : Environment}

/-- **What happens when a policy does its part after a change**: the platform is asked to forget,
or time is let pass. -/
def Refreshes (x : Event) : Prop :=
  match m.policy with
  | .invalidateOnMutation =>
    ∃ r reply, x = .exchanged r reply ∧ m.admin.request "POST" m.invalidatePath .empty = .ok r
  | .stalenessWindow window => x = .slept window
  | .manual => False

/-- **The one refresh of a policy**, what comes of it, and what has happened then. -/
inductive RefreshTurn (m : AccessModel) (env : Environment) (t : Transcript) :
    Outcome Unit → Transcript → Prop
  /-- The platform is asked once to forget what it cached, and has to answer with a success. -/
  | asked {r : Request} (policy : m.policy = .invalidateOnMutation)
      (request : m.admin.request "POST" m.invalidatePath .empty = .ok r) :
      RefreshTurn m env t ((env.respond t r).outcome.map fun _ => ())
        (.exchanged r (env.respond t r) :: t)
  /-- It should be asked, but no request can be sent there. -/
  | unasked {f : Fault} (policy : m.policy = .invalidateOnMutation)
      (refused : m.admin.request "POST" m.invalidatePath .empty = .error f) :
      RefreshTurn m env t (.error f) t
  /-- The time after which nothing cached is left is let pass, once. -/
  | waited {window : Nat} (policy : m.policy = .stalenessWindow window) :
      RefreshTurn m env t (.ok ()) (.slept window :: t)
  /-- Nothing is done. -/
  | idle (policy : m.policy = .manual) : RefreshTurn m env t (.ok ()) t

/-- A refresh is the turn of the policy. -/
theorem refreshTurn_refresh (env : Environment) (t : Transcript) :
    m.RefreshTurn env t (m.refresh env t).1 (m.refresh env t).2 := by
  unfold refresh
  cases policy : m.policy with
  | manual => exact .idle policy
  | stalenessWindow window => exact .waited policy
  | invalidateOnMutation =>
    show m.RefreshTurn env t (m.admin.post m.invalidatePath .empty env t).1
      (m.admin.post m.invalidatePath .empty env t).2
    rw [RestClient.post_apply]
    cases request : m.admin.request "POST" m.invalidatePath .empty with
    | error f => exact .unasked policy request
    | ok r => exact .asked policy request

variable {m} in
/-- **A refresh is one event of its kind**, or nothing where there is none to be had. -/
theorem RefreshTurn.once {t t' : Transcript} {o : Outcome Unit} (turn : m.RefreshTurn env t o t') :
    (∃ y, m.Refreshes y ∧ t' = y :: t) ∨ (m.policy = .manual ∨ ¬ m.CanRefresh) ∧ t' = t := by
  unfold Refreshes
  cases turn with
  | asked policy request =>
    rw [policy]
    exact .inl ⟨_, ⟨_, _, rfl, request⟩, rfl⟩
  | unasked policy refused =>
    refine .inr ⟨.inr fun can => ?_, rfl⟩
    obtain ⟨r, sent⟩ := can policy
    rw [refused] at sent
    cases sent
  | waited policy =>
    rw [policy]
    exact .inl ⟨_, rfl, rfl⟩
  | idle policy => exact .inr ⟨.inl policy, rfl⟩

/-- **A refresh does the policy's part, and nothing else.** -/
theorem leads_refresh_within : Leads (ExtendsWithin m.Refreshes) env m.refresh := by
  intro t
  show ExtendsWithin m.Refreshes t (m.refresh env t).2
  rcases (m.refreshTurn_refresh env t).once with ⟨y, refreshes, once⟩ | ⟨-, never⟩
  · rw [once]
    exact Transcript.extendsWithin_cons t refreshes
  · rw [never]
    exact refl_of _ t

variable {m}

/-- The one request of a refresh carries nothing. -/
theorem Refreshes.post_empty {r : Request} {reply : Reply} (h : m.Refreshes (.exchanged r reply)) :
    r.method = "POST" ∧ r.body = .empty := by
  unfold Refreshes at h
  cases policy : m.policy with
  | manual =>
    rw [policy] at h
    cases h
  | stalenessWindow window =>
    rw [policy] at h
    cases h
  | invalidateOnMutation =>
    rw [policy] at h
    obtain ⟨r', reply', same, sent⟩ := h
    cases same
    obtain ⟨post, empty, -⟩ := RestClient.request_eq_ok sent
    exact ⟨post, empty⟩

/-- A refresh asks for no change. -/
theorem Refreshes.not_askedBy {r : Request} {reply : Reply} (h : m.Refreshes (.exchanged r reply))
    (ch : Change) : ¬ ch.AskedBy r := by
  intro asked
  obtain ⟨post, empty⟩ := h.post_empty
  refine Change.neutral_post_empty ch ?_ ?_
  · rw [← Change.method_eq_of_askedBy asked, post]
  · rw [← Change.body_eq_of_askedBy asked, empty]

/-- Nor for a deletion of any kind. -/
theorem Refreshes.isDeletion {x : Event} (h : m.Refreshes x) : x.isDeletion = false := by
  cases x with
  | slept d => rfl
  | exchanged r reply =>
    rw [Event.isDeletion, h.post_empty.1]
    rfl

end AccessModel

end AccessHarness
