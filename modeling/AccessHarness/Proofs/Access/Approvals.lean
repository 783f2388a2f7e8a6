import AccessHarness.Proofs.Access.Accounts
import AccessHarness.Proofs.Access.Revocations

/-!
# What a success stands for

An operation of the access model that succeeds was let do everything it asked for.

* `Program.Approved` — a program that never asks for a deletion, and succeeds only if all that it
  asks for is accepted.
* `AccessModel.approved_grantIfMissing` — what is done before something is deleted.
* `AccessModel.approvals_of_teardown` — a teardown that succeeds took everything back.

### What is load-bearing

`Program.Approved` says nothing of a program that fails, and a program that goes on after a
failure does not have it.  The teardown of the access model is such a program: it keeps the first
failure and reports it at the end, so its success is looked at by itself.
-/

namespace AccessHarness

/-- Whether something that happened is a request to delete. -/
def Event.isDeletion : Event → Bool
  | .exchanged r _ => r.method == "DELETE"
  | .slept _ => false

/-- Whether something that happened was nothing against the harness. -/
def Event.isApproval : Event → Bool
  | .exchanged _ reply => reply.isAccepted
  | .slept _ => true

open Transcript (ExtendsWithin)
open Program (Leads)

namespace Program

variable {σ α β : Type} {view : σ → Transcript} {env : Environment}

/-- **A program that deletes nothing, and succeeds only if everything it asks for is accepted.** -/
structure Approved (view : σ → Transcript) (env : Environment) (m : Program σ α) : Prop where
  spares : Leads (InvImage (ExtendsWithin fun x => x.isDeletion = false) view) env m
  approved : ∀ s a, (m env s).1 = .ok a →
    ExtendsWithin (fun x => x.isApproval = true) (view s) (view (m env s).2)

namespace Approved

theorem pure (a : α) : Approved view env (Pure.pure a : Program σ α) where
  spares := .pure a
  approved s _ _ := refl_of _ (view s)

theorem bind {m : Program σ α} {k : α → Program σ β} (hm : Approved view env m)
    (hk : ∀ a, Approved view env (k a)) : Approved view env (m >>= k) where
  spares := .bind hm.spares fun a => (hk a).spares
  approved s b ended := by
    have run : (m >>= k) env s = (.ok b, ((m >>= k) env s).2) := Prod.ext ended rfl
    obtain ⟨a, s₁, first, second⟩ := exists_of_bind_eq_ok run
    have before := hm.approved s a (congrArg Prod.fst first)
    have after := (hk a).approved s₁ b (congrArg Prod.fst second)
    rw [first] at before
    rw [second] at after
    exact trans_of _ before after

end Approved

end Program

open Program (Approved)

variable {env : Environment} {α : Type}

namespace Session

theorem approved_ofOutcome (o : Outcome α) : Approved id env (ofOutcome o) where
  spares := leads_ofOutcome o
  approved t _ _ := refl_of _ t

theorem approved_sleep (d : Nat) : Approved id env (sleep d) where
  spares t := Transcript.extendsWithin_cons t rfl
  approved t _ _ := Transcript.extendsWithin_cons t rfl

end Session

namespace RestClient

variable (c : RestClient)

/-- **A call that succeeds was accepted.** -/
theorem approved_call {method : String} (other : method ≠ "DELETE") (path : String)
    (body : Body) : Approved id env (c.call method path body) where
  spares t := by
    show ExtendsWithin _ t (c.call method path body env t).2
    rw [call_apply]
    cases sent : c.request method path body with
    | error f => exact refl_of _ t
    | ok r =>
      have spared : (Event.exchanged r (env.respond t r)).isDeletion = false := by
        simp [Event.isDeletion, (request_eq_ok sent).1, other]
      exact Transcript.extendsWithin_cons t spared
  approved t answer ended := by
    show ExtendsWithin _ t (c.call method path body env t).2
    rw [call_apply] at ended ⊢
    cases sent : c.request method path body with
    | error f => exact refl_of _ t
    | ok r =>
      rw [sent] at ended
      have accepted : (Event.exchanged r (env.respond t r)).isApproval = true :=
        Reply.isAccepted_of_outcome ended
      exact Transcript.extendsWithin_cons t accepted

theorem approved_get (d : Json.Decoder α) (path : String) : Approved id env (c.get d path) :=
  .bind (c.approved_call (by decide) path .empty) fun _ => Session.approved_ofOutcome _

theorem approved_postJson (d : Json.Decoder α) (path : String) (document : Json) :
    Approved id env (c.postJson d path document) :=
  .bind (c.approved_call (by decide) path _) fun _ => Session.approved_ofOutcome _

theorem approved_post (path : String) (body : Body) : Approved id env (c.post path body) :=
  .bind (c.approved_call (by decide) path body) fun _ => .pure _

end RestClient

namespace AccessAct

/-- What a session stands for, it stands for in the access model. -/
theorem approved_liftM {m : Session α} (h : Approved id env m) :
    Approved AccessState.transcript env (liftM m : AccessAct α) where
  spares s := h.spares s.transcript
  approved s a ended := h.approved s.transcript a ended

theorem approved_ledger : Approved AccessState.transcript env ledger where
  spares s := refl_of _ s.transcript
  approved s _ _ := refl_of _ s.transcript

theorem approved_record (f : Ledger → Ledger) :
    Approved AccessState.transcript env (record f) where
  spares s := refl_of _ s.transcript
  approved s _ _ := refl_of _ s.transcript

end AccessAct

namespace AccessModel

variable (m : AccessModel) (p : Principal)

theorem approved_refresh : Approved id env m.refresh := by
  unfold refresh
  cases m.policy with
  | invalidateOnMutation => exact m.admin.approved_post m.invalidatePath .empty
  | stalenessWindow window => exact Session.approved_sleep window
  | manual => exact .pure ()

theorem approved_grant (e : EntityId) (actions : List Action) :
    Approved AccessState.transcript env (m.grant p e actions) := by
  have granted : Approved id env (m.admin.grantPrivileges ⟨e, p, ActionSet.ofList actions⟩) :=
    .bind (m.admin.approved_postJson _ _ _) fun _ => .pure _
  exact .bind (.bind (AccessAct.approved_liftM granted) fun _ => AccessAct.approved_record _)
    fun _ => AccessAct.approved_liftM m.approved_refresh

theorem approved_grantIfMissing (e : EntityId) (a : Action) :
    Approved AccessState.transcript env (m.grantIfMissing p e a) := by
  refine .bind AccessAct.approved_ledger fun l => ?_
  split
  · exact .pure ()
  · refine .bind (AccessAct.approved_liftM (m.admin.approved_get _ _)) fun listing => ?_
    split
    · exact .pure ()
    · exact m.approved_grant p e [a]

theorem approved_revokePrivileges (request : RevokeRequest) :
    Approved id env (m.admin.revokePrivileges request) :=
  .bind (m.admin.approved_postJson _ _ _) fun _ => .pure _

/-- What is left of a first failure when there is none in the end. -/
theorem firstFailure_eq_none {first : Option Fault} {o : Outcome Unit}
    (h : firstFailure first o = none) : first = none ∧ o = .ok () := by
  cases first with
  | some f => cases h
  | none =>
    cases o with
    | ok u => exact ⟨rfl, rfl⟩
    | error f => cases h

/-- Revocations go on after a failure, which is kept; where none is kept, each was accepted. -/
theorem approvals_of_revokeGrants (gs : List Grant) (first : Option Fault) (s : AccessState)
    (ended : (m.revokeGrants gs first env s).1 = .ok none) :
    first = none ∧ ExtendsWithin (fun x => x.isApproval = true) s.transcript
      (m.revokeGrants gs first env s).2.transcript := by
  induction gs generalizing first s with
  | nil => exact ⟨Except.ok.inj ended, refl_of _ s.transcript⟩
  | cons g rest ih =>
    rw [revokeGrants_cons, Program.bind_apply, AccessAct.attempt_apply,
      AccessAct.liftM_apply] at ended ⊢
    have asked : Approved id env (m.admin.ask (.revoke g.revocation)) :=
      m.approved_revokePrivileges g.revocation
    have one := asked.approved s.transcript
    generalize m.admin.ask (.revoke g.revocation) env s.transcript = out at one ended ⊢
    obtain ⟨f | u, t₁⟩ := out
    · obtain ⟨kept, -⟩ := ih (firstFailure first (.error f)) ⟨t₁, s.ledger⟩ ended
      cases (firstFailure_eq_none kept).2
    · obtain ⟨none, later⟩ := ih first
        ⟨t₁, s.ledger.recordRevoke g.principal g.entity (some g.actions)⟩ ended
      exact ⟨none, trans_of _ (one u rfl) later⟩

/-- **A teardown that succeeds took back what it asked for.** -/
theorem approvals_of_teardown (s : AccessState) (ok : (m.teardown env s).1 = .ok ()) :
    ExtendsWithin (fun x => x.isApproval = true) s.transcript
      (m.teardown env s).2.transcript := by
  obtain ⟨first, s₁, series⟩ := m.exists_revokeGrants_eq_ok env s.ledger.grants none s
  have revoked (ended : (m.revokeGrants s.ledger.grants none env s).1 = .ok none) :=
    (m.approvals_of_revokeGrants s.ledger.grants none s ended).2
  have refresh : Approved id env m.refresh := m.approved_refresh
  rw [teardown_apply series] at ok ⊢
  rw [series] at revoked
  cases reported : firstFailure first (m.refresh env s₁.transcript).1 with
  | some f =>
    rw [reported] at ok
    cases ok
  | none =>
    obtain ⟨rfl, ended⟩ := firstFailure_eq_none reported
    exact trans_of _ (revoked rfl) (refresh.approved s₁.transcript () ended)

end AccessModel

end AccessHarness
