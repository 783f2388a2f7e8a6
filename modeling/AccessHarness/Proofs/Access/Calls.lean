import AccessHarness.Proofs.Access.Revocations
import AccessHarness.Proofs.Access.StorePlatform

/-!
# Calls of the access model

A scenario calls the access model again and again, and goes on when a call fails.  This file
is about the calls that grant, on a platform that accepts them, and what a teardown makes of it.

* `AccessCall` — the calls that change privileges, each with its operation.
* `AccessModel.after_grants` — what the platform holds and what the ledger says after any
  number of grants: both gained the same.
* `AccessModel.teardown_restores_iff` — exactly when a teardown leaves the platform as it was.

### What is load-bearing

A grant is recorded as it was asked for, not as the platform changed.  A privilege that was held
before and is granted once more is in the ledger, and goes with the rest when it is torn down:
what both sides gain is equal (`Gained`), so what is taken back may be more than what was given.
-/

namespace AccessHarness

/-- **A call that changes privileges.** -/
inductive AccessCall where
  | grant (p : Principal) (e : EntityId) (actions : List Action)
  | grantAll (p : Principal) (plan : PrivilegePlan)
  | grantIfMissing (p : Principal) (e : EntityId) (a : Action)
  | revoke (p : Principal) (e : Option EntityId) (actions : Option (List Action))

namespace AccessCall

/-- The operation of a call. -/
def run (m : AccessModel) : AccessCall → AccessAct Unit
  | .grant p e actions => m.grant p e actions
  | .grantAll p plan => do
    let _ ← m.grantAll p plan
    return ()
  | .grantIfMissing p e a => m.grantIfMissing p e a
  | .revoke p e actions => m.revoke p e actions

/-- Whether a call grants whatever is held already. -/
def isGrant : AccessCall → Bool
  | .grant .. | .grantAll .. => true
  | _ => false

/-- **Everything was revoked from a principal, and that was cut short** after something was
taken away that the ledger claims. -/
def CutShort (call : AccessCall) (s s' : AccessState) : Prop :=
  ∃ p actions, call = .revoke p none actions ∧ AccessModel.Interrupted p s s'

/-- What a grant of either kind gives. -/
def covers : AccessCall → Store
  | .grant p e actions => {x | x.principal = p ∧ x.entity = e ∧ x.action ∈ actions}
  | .grantAll p plan =>
    {x | x.principal = p ∧ ∃ planned ∈ plan.toList, x.entity = planned.1 ∧
      planned.2.contains x.action = true}
  | _ => ∅

end AccessCall

namespace AccessModel

/-- The state after some calls. -/
def after (m : AccessModel) (env : Environment) (calls : List AccessCall) (s : AccessState) :
    AccessState :=
  Program.inTurn env (calls.map fun call => call.run m) s

/-- Whether what the policy does after a change can be done. -/
def CanRefresh (m : AccessModel) : Prop :=
  m.policy = .invalidateOnMutation → ∃ r, m.admin.request "POST" m.invalidatePath .empty = .ok r

end AccessModel

namespace AccessCall

variable {env : Environment} {held : Transcript → Store} (F : Faithful env held)
variable (m : AccessModel)

include F

/-- **Every call keeps ledger and platform in step**, unless it is cut short. -/
theorem inStep_run {call : AccessCall} {s : AccessState}
    (whole : ¬ call.CutShort s (call.run m env s).2) :
    InStep held m.admin s (call.run m env s).2 := by
  cases call with
  | grant p e actions => exact AccessModel.leads_grant F m p e actions s
  | grantAll p plan =>
    have granted := AccessModel.leads_grantAll F m p plan
    exact Program.Leads.bind granted (fun _ => .pure ()) s
  | grantIfMissing p e a => exact AccessModel.leads_grantIfMissing F m p e a s
  | revoke p e actions =>
    cases e with
    | some e => exact AccessModel.leads_revoke_some F m p e actions s
    | none =>
      refine (AccessModel.revokedAll F m p actions s).inStep ?_
      intro interrupted
      exact whole ⟨p, actions, rfl, interrupted⟩

/-- **No call leaves anything unrecorded.** -/
theorem covered_run (call : AccessCall) :
    Program.Leads (Covered held m.admin) env (call.run m) := by
  intro s
  by_cases cut : call.CutShort s (call.run m env s).2
  · obtain ⟨p, actions, rfl, -⟩ := cut
    exact (AccessModel.revokedAll F m p actions s).covered
  · exact (inStep_run F m cut).toCovered

/-- A call that was cut short leaves the ledger outdated. -/
theorem exists_outdated_of_cutShort {call : AccessCall} {s : AccessState}
    (cut : call.CutShort s (call.run m env s).2) :
    ((call.run m env s).2.outdated held).Nonempty := by
  obtain ⟨p, actions, rfl, interrupted⟩ := cut
  exact (AccessModel.revokedAll F m p actions s).exists_outdated interrupted

end AccessCall

/-! ### Grants that are accepted -/

/-- **What both sides gained**: the same, and nothing where nothing can be sent. -/
structure Gained (held : Transcript → Store) (c : RestClient) (gain : Store)
    (s s' : AccessState) : Prop where
  store : held s'.transcript = held s.transcript ∪ {x | c.CanSend ∧ x ∈ gain}
  ledger : s'.ledger.entitlements = s.ledger.entitlements ∪ {x | c.CanSend ∧ x ∈ gain}
  mute : ¬ c.CanSend → s'.ledger = s.ledger

section

variable {env : Environment} {held : Transcript → Store} {c : RestClient}

theorem Gained.of_same {s s' : AccessState} (same : held s'.transcript = held s.transcript)
    (ledger : s'.ledger = s.ledger) : Gained held c ∅ s s' := by
  refine ⟨?_, ?_, fun _ => ledger⟩
  · rw [same]
    simp
  · rw [ledger]
    simp

theorem Gained.trans {gain gain' : Store} {s s₁ s₂ : AccessState} (h : Gained held c gain s s₁)
    (h' : Gained held c gain' s₁ s₂) : Gained held c (gain ∪ gain') s s₂ := by
  have split : {x | c.CanSend ∧ x ∈ gain ∪ gain'} =
      {x | c.CanSend ∧ x ∈ gain} ∪ {x | c.CanSend ∧ x ∈ gain'} := by
    ext x
    exact and_or_left
  refine ⟨?_, ?_, fun mute => (h'.mute mute).trans (h.mute mute)⟩
  · rw [h'.store, h.store, split, Set.union_assoc]
  · rw [h'.ledger, h.ledger, split, Set.union_assoc]

/-- What follows without a gain changes nothing about it. -/
theorem Gained.andThen {α β : Type} {gain : Store} {m : AccessAct α} {k : α → AccessAct β}
    {s : AccessState} (h : Gained held c gain s (m env s).2)
    (hk : ∀ a s₁, Gained held c ∅ s₁ (k a env s₁).2) :
    Gained held c gain s ((m >>= k) env s).2 := by
  rw [Program.bind_apply]
  generalize m env s = out at h ⊢
  obtain ⟨f | a, s₁⟩ := out
  · exact h
  · have whole := h.trans (hk a s₁)
    rw [Set.union_empty] at whole
    exact whole

theorem Gained.congr {gain gain' : Store} {s s' : AccessState} (h : Gained held c gain s s')
    (same : gain = gain') : Gained held c gain' s s' := same ▸ h

end

namespace AccessModel

section

variable {env : Environment} {held : Transcript → Store} (F : Faithful env held)
variable (obliging : Obliging env) (m : AccessModel) (p : Principal)

include F obliging

/-- A grant is accepted if it can be sent, and then both sides gain it. -/
theorem gained_issueGrant (e : EntityId) (actions : ActionSet) (s : AccessState) :
    Gained held m.admin (GrantRequest.covers ⟨e, p, actions⟩) s
        (m.issueGrant p e actions env s).2 ∧
      (m.admin.CanSend → (m.issueGrant p e actions env s).1 = .ok ()) := by
  rw [issueGrant_eq, Program.bind_apply, AccessAct.liftM_apply]
  have asked := F.asked m.admin (.grant ⟨e, p, actions⟩) s.transcript
  generalize m.admin.ask (.grant ⟨e, p, actions⟩) env s.transcript = out at asked ⊢
  cases asked with
  | unsent f mute =>
    refine ⟨⟨?_, ?_, fun _ => rfl⟩, fun sends => absurd sends mute⟩ <;> simp [mute]
  | refused f r sends asked refusal same =>
    rw [obliging s.transcript r (Change.method_eq_of_askedBy asked)] at refusal
    cases refusal
  | accepted r sends asked acceptance done =>
    have gain : {x | m.admin.CanSend ∧ x ∈ GrantRequest.covers ⟨e, p, actions⟩} =
        GrantRequest.covers ⟨e, p, actions⟩ := by
      simp [sends]
    refine ⟨⟨?_, ?_, fun mute => absurd sends mute⟩, fun _ => rfl⟩
    · rw [gain]
      exact done
    · rw [gain]
      exact s.ledger.entitlements_recordGrant ⟨e, p, actions⟩

omit obliging in
theorem gained_refresh (s : AccessState) :
    Gained held m.admin ∅ s ((liftM m.refresh : AccessAct Unit) env s).2 :=
  .of_same (F.leads_refresh m s.transcript).same rfl

theorem gained_grant (e : EntityId) (actions : List Action) (s : AccessState) :
    Gained held m.admin (AccessCall.grant p e actions).covers s
      (m.grant p e actions env s).2 := by
  have given : GrantRequest.covers ⟨e, p, ActionSet.ofList actions⟩ =
      (AccessCall.grant p e actions).covers := by
    ext x
    rw [GrantRequest.mem_covers]
    simp [AccessCall.covers]
  have issued := (gained_issueGrant F obliging m p e (ActionSet.ofList actions) s).1
  exact (issued.congr given).andThen fun _ => gained_refresh F m

/-- What a plan gives. -/
private def planned (p : Principal) (plan : List (EntityId × ActionSet)) : Store :=
  {x | x.principal = p ∧ ∃ entry ∈ plan, x.entity = entry.1 ∧ entry.2.contains x.action = true}

omit F obliging in
private theorem planned_cons (e : EntityId) (actions : ActionSet)
    (rest : List (EntityId × ActionSet)) :
    planned p ((e, actions) :: rest) =
      GrantRequest.covers ⟨e, p, actions⟩ ∪ planned p rest := by
  ext x
  rw [Set.mem_union, GrantRequest.mem_covers]
  simp only [planned, Set.mem_ofPred_eq, List.mem_cons, exists_eq_or_imp, and_or_left]

theorem gained_issueGrants (plan : List (EntityId × ActionSet)) (s : AccessState) :
    Gained held m.admin (planned p plan) s (m.issueGrants p plan env s).2 := by
  induction plan generalizing s with
  | nil =>
    refine (Gained.of_same rfl rfl).congr ?_
    ext x
    simp [planned]
  | cons entry rest ih =>
    obtain ⟨e, actions⟩ := entry
    obtain ⟨issued, accepted⟩ := gained_issueGrant F obliging m p e actions s
    rw [issueGrants_cons, Program.bind_apply, planned_cons]
    rcases stepped : m.issueGrant p e actions env s with ⟨f | u, s₁⟩ <;>
      rw [stepped] at issued accepted
    · -- nothing else can be sent either
      have mute : ¬ m.admin.CanSend := by
        intro sends
        cases accepted sends
      refine ⟨?_, ?_, issued.mute⟩
      · rw [issued.store]
        simp [mute]
      · rw [issued.ledger]
        simp [mute]
    · exact issued.trans (ih s₁)

theorem gained_grantAll (plan : PrivilegePlan) (s : AccessState) :
    Gained held m.admin (AccessCall.grantAll p plan).covers s
      ((AccessCall.grantAll p plan).run m env s).2 := by
  have issued := gained_issueGrants F obliging m p plan.toList s
  have nothing (s₁ : AccessState) : Gained held m.admin ∅ s₁ s₁ := .of_same rfl rfl
  exact (issued.andThen fun _ s₁ =>
    (gained_refresh F m s₁).andThen fun _ => nothing).andThen fun _ => nothing

/-- **After any number of grants both sides gained all of them.** -/
theorem after_grants {calls : List AccessCall} (grants : ∀ call ∈ calls, call.isGrant = true)
    (s : AccessState) :
    Gained held m.admin {x | ∃ call ∈ calls, x ∈ call.covers} s (m.after env calls s) := by
  induction calls generalizing s with
  | nil =>
    refine (Gained.of_same rfl rfl).congr ?_
    ext x
    simp
  | cons call rest ih =>
    have first : Gained held m.admin call.covers s (call.run m env s).2 := by
      cases call with
      | grant p e actions => exact gained_grant F obliging m p e actions s
      | grantAll p plan => exact gained_grantAll F obliging m p plan s
      | grantIfMissing p e a => exact absurd (grants _ List.mem_cons_self) Bool.false_ne_true
      | revoke p e actions => exact absurd (grants _ List.mem_cons_self) Bool.false_ne_true
    have later := ih (fun call' mem => grants call' (List.mem_cons_of_mem call mem))
      (call.run m env s).2
    refine (first.trans later).congr ?_
    ext x
    simp

omit F in
theorem refresh_eq_ok_iff (t : Transcript) : (m.refresh env t).1 = .ok () ↔ m.CanRefresh := by
  unfold refresh CanRefresh
  cases m.policy with
  | manual => exact iff_of_true rfl nofun
  | stalenessWindow window => exact iff_of_true rfl nofun
  | invalidateOnMutation =>
    have posted : m.invalidate = m.admin.post m.invalidatePath .empty := rfl
    simp only [posted, RestClient.post_apply, true_implies]
    cases sent : m.admin.request "POST" m.invalidatePath .empty with
    | error f => simp
    | ok r =>
      have accepted := obliging t r (RestClient.request_eq_ok sent).1
      obtain ⟨response, -, taken⟩ := Reply.outcome_of_isAccepted accepted
      simp [taken, Except.map]

/-- **What an obliging platform is asked to take back is gone**, and nothing else. -/
theorem teardown_of_obliging {s : AccessState}
    (recorded : ¬ m.admin.CanSend → s.ledger = Ledger.empty) :
    held (m.teardown env s).2.transcript = held s.transcript \ s.ledger.entitlements ∧
      ((m.teardown env s).1 = .ok () ↔ m.CanRefresh) := by
  obtain ⟨first, t, tried, outcome⟩ := teardown_spec F m s
  -- no fault has a reason here: nothing is refused, and a client that cannot send has
  -- recorded nothing to take back
  have faultless : first = none := by
    by_contra failed
    rcases tried.reason failed with earlier | ⟨nonempty, mute⟩ | ⟨u, r, post, refused⟩
    · exact earlier rfl
    · rw [recorded mute] at nonempty
      exact nonempty rfl
    · rw [obliging u r post] at refused
      cases refused
  subst faultless
  refine ⟨?_, ?_⟩
  · ext x
    rw [Set.mem_sdiff, Ledger.mem_entitlements_iff_exists_grant]
    constructor
    · intro remains
      refine ⟨tried.revoking.shrinks remains, ?_⟩
      rintro ⟨g, mem, covered⟩
      exact (tried.left g mem x covered remains).1 rfl
    · rintro ⟨before, unknown⟩
      by_contra lost
      obtain ⟨v, ⟨g, mem, rfl⟩, covered, -⟩ := tried.revoking.cause before lost
      exact unknown ⟨g, mem, covered⟩
  · rw [outcome, ← refresh_eq_ok_iff obliging m t]
    cases (m.refresh env t).1 <;> simp [firstFailure, outcomeOf]

/-- **Exactly when a teardown undoes a run of grants.**  From an empty ledger, whatever was
granted is taken away in the end, also what the platform held before; so it is as it was before
if and only if nothing was granted that it held already.  That the teardown succeeds takes a
refresh that can be sent. -/
theorem teardown_restores_iff (t : Transcript) {calls : List AccessCall}
    (grants : ∀ call ∈ calls, call.isGrant = true) :
    let torn := m.teardown env (m.after env calls ⟨t, .empty⟩)
    held torn.2.transcript =
        held t \ {x | m.admin.CanSend ∧ ∃ call ∈ calls, x ∈ call.covers} ∧
      (torn.1 = .ok () ∧ held torn.2.transcript = held t ↔
        m.CanRefresh ∧ (m.admin.CanSend → ∀ call ∈ calls, Disjoint (held t) call.covers)) := by
  intro torn
  have gained := after_grants F obliging m grants ⟨t, .empty⟩
  obtain ⟨store, outcome⟩ := teardown_of_obliging F obliging m gained.mute
  have left : held torn.2.transcript =
      held t \ {x | m.admin.CanSend ∧ ∃ call ∈ calls, x ∈ call.covers} := by
    rw [store, gained.store, gained.ledger, Ledger.entitlements_empty, Set.empty_union,
      Set.union_sdiff_right]
    rfl
  refine ⟨left, ?_⟩
  rw [left, outcome, sdiff_eq_left, Set.disjoint_left]
  refine and_congr_right fun _ => ?_
  constructor
  · intro apart sends call mem
    rw [Set.disjoint_left]
    exact fun x before covered => apart before ⟨sends, call, mem, covered⟩
  · rintro apart x before ⟨sends, call, mem, covered⟩
    exact Set.disjoint_left.1 (apart sends call mem) before covered

end

/-- Somebody who could read one namespace still can, after others were let in and out. -/
theorem teardown_restores_iff_apart :
    let P := StorePlatform.accepting {⟨.user "alice", .space "a", .read⟩}
    let calls := [AccessCall.grant (.user "bob") (.space "a") [.read],
      .grantAll (.user "alice") (.ofSteps [(.space "b", [.read, .admin])])]
    let torn := AccessModel.local.teardown P.environment
      (AccessModel.local.after P.environment calls ⟨[], .empty⟩)
    torn.1 = .ok () ∧ P.held torn.2.transcript = P.held [] := by
  intro P calls torn
  have grants : ∀ call ∈ calls, call.isGrant = true := by decide
  refine (teardown_restores_iff P.faithful (StorePlatform.obliging_accepting _) .local []
    grants).2.2 ⟨nofun, fun _ => ?_⟩
  intro call mem
  rw [Set.disjoint_left]
  rintro x (rfl : x = _)
  rcases List.mem_cons.1 mem with rfl | mem
  · show ¬ (_ ∧ _ ∧ _)
    decide
  · rw [List.mem_singleton.1 mem]
    show ¬ (_ ∧ ∃ planned ∈ _, _ ∧ _)
    decide +kernel

/-- **A privilege from before the scenario is lost** if it is granted once more: the teardown
succeeds, and takes it away. -/
theorem teardown_takes_prior_privilege :
    let alice : Entitlement := ⟨.user "alice", .space "a", .read⟩
    let P := StorePlatform.accepting {alice}
    let granted := AccessModel.local.after P.environment
      [.grant (.user "alice") (.space "a") [.read]] ⟨[], .empty⟩
    let torn := AccessModel.local.teardown P.environment granted
    Faithful P.environment P.held ∧ Obliging P.environment ∧ alice ∈ P.held [] ∧
      torn.1 = .ok () ∧ alice ∉ P.held torn.2.transcript := by
  intro alice P granted torn
  have obliging : Obliging P.environment := StorePlatform.obliging_accepting _
  have grants : ∀ call ∈ [AccessCall.grant (.user "alice") (.space "a") [.read]],
      call.isGrant = true := by
    decide
  have gained := after_grants P.faithful obliging .local grants ⟨[], .empty⟩
  obtain ⟨store, outcome⟩ := teardown_of_obliging P.faithful obliging .local gained.mute
  refine ⟨P.faithful, obliging, rfl, outcome.2 nofun, ?_⟩
  rw [store, gained.ledger]
  refine fun left => left.2 (.inr ⟨RestClient.canSend_local, _, List.mem_singleton.2 rfl, ?_⟩)
  show _ ∧ _ ∧ _
  decide

end AccessModel

end AccessHarness
