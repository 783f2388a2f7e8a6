import AccessHarness.Proofs.Session.Histories

/-!
# What the access model gives account of

Every operation of the access model goes on from where it began, and if it fails because somebody
was refused or something is missing, its last answer says so.

A ledger entry is no part of the history, and writing one never fails; so an operation is
accountable because its requests are (`AccessAct.accountable_liftM`).
-/

namespace AccessHarness

open Program (Accountable)

variable {env : Environment} {α : Type}

namespace AccessAct

/-- A session gives the same account in the access model. -/
theorem accountable_liftM {m : Session α} (h : Accountable id env m) :
    Accountable AccessState.transcript env (liftM m : AccessAct α) where
  onward s := h.onward s.transcript
  borneOut s f failed := h.borneOut s.transcript f failed

theorem accountable_ledger : Accountable AccessState.transcript env ledger where
  onward _ := .refl
  borneOut _ _ failed := by cases failed

theorem accountable_record (f : Ledger → Ledger) :
    Accountable AccessState.transcript env (record f) where
  onward _ := .refl
  borneOut _ _ failed := by cases failed

end AccessAct

namespace AccessModel

variable (m : AccessModel) (p : Principal)

theorem accountable_refresh : Accountable id env m.refresh := by
  unfold refresh
  cases m.policy with
  | invalidateOnMutation => exact m.admin.accountable_post m.invalidatePath .empty
  | stalenessWindow window => exact Session.accountable_sleep window
  | manual => exact .pure ()

theorem accountable_issueGrant (e : EntityId) (actions : ActionSet) :
    Accountable AccessState.transcript env (m.issueGrant p e actions) := by
  have granted : Accountable id env (m.admin.grantPrivileges ⟨e, p, actions⟩) :=
    .bind (m.admin.accountable_postJson _ _ _) fun _ => .pure _
  exact .bind (AccessAct.accountable_liftM granted) fun _ => AccessAct.accountable_record _

theorem accountable_issueGrants (plan : List (EntityId × ActionSet)) :
    Accountable AccessState.transcript env (m.issueGrants p plan) := by
  induction plan with
  | nil => exact .pure ()
  | cons entry rest ih =>
    obtain ⟨e, actions⟩ := entry
    exact .bind (m.accountable_issueGrant p e actions) fun _ => ih

theorem accountable_grant (e : EntityId) (actions : List Action) :
    Accountable AccessState.transcript env (m.grant p e actions) :=
  .bind (m.accountable_issueGrant p e _) fun _ =>
    AccessAct.accountable_liftM m.accountable_refresh

theorem accountable_grantAll (plan : PrivilegePlan) :
    Accountable AccessState.transcript env (m.grantAll p plan) :=
  .bind (m.accountable_issueGrants p plan.toList) fun _ =>
    .bind (AccessAct.accountable_liftM m.accountable_refresh) fun _ => .pure _

theorem accountable_grantIfMissing (e : EntityId) (a : Action) :
    Accountable AccessState.transcript env (m.grantIfMissing p e a) := by
  refine .bind AccessAct.accountable_ledger ?_
  intro l
  -- recorded already, or listed already, or granted now
  split
  · exact .pure ()
  · refine .bind (AccessAct.accountable_liftM (m.admin.accountable_get _ _)) ?_
    intro listing
    split
    · exact .pure ()
    · exact m.accountable_grant p e [a]

theorem accountable_revokePrivileges (request : RevokeRequest) :
    Accountable id env (m.admin.revokePrivileges request) :=
  .bind (m.admin.accountable_postJson _ _ _) fun _ => .pure _

theorem accountable_revokeEntities (es : List EntityId) :
    Accountable id env (m.revokeEntities p es) := by
  induction es with
  | nil => exact .pure ()
  | cons e rest ih => exact .bind (m.accountable_revokePrivileges _) fun _ => ih

theorem accountable_revoke (e : Option EntityId) (actions : Option (List Action)) :
    Accountable AccessState.transcript env (m.revoke p e actions) := by
  have refreshed : Accountable AccessState.transcript env (liftM m.refresh : AccessAct Unit) :=
    AccessAct.accountable_liftM m.accountable_refresh
  cases e with
  | some e =>
    exact .bind (AccessAct.accountable_liftM (m.accountable_revokePrivileges _)) fun _ =>
      .bind (AccessAct.accountable_record _) fun _ => refreshed
  | none =>
    exact .bind (AccessAct.accountable_liftM (m.admin.accountable_get _ _)) fun listing =>
      .bind (AccessAct.accountable_liftM (m.accountable_revokeEntities p _)) fun _ =>
        .bind (AccessAct.accountable_record _) fun _ => refreshed

end AccessModel

end AccessHarness
