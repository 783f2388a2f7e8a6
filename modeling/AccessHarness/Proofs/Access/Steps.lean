import AccessHarness.Proofs.Access.Effects

/-!
# The ledger and the platform

What a platform holds and what the ledger says can differ in two ways, and each operation of
the access model is judged by what it does to the two differences.

* `AccessState.unrecorded` — held, and not in the ledger.
* `AccessState.outdated` — in the ledger, and not held.
* `Covered` — nothing became unrecorded; `InStep` — nor did anything become outdated.

### What is load-bearing

A change that is carried out on both sides makes neither difference larger
(`Change.apply_sdiff_apply`), whatever the two sides were before.  Both relations are therefore
kept by every operation that writes the ledger next to the request, whether it succeeds or not.

**The exception.**  Revoking everything from a principal sends many requests and writes the
ledger once, at the end.  If it is cut short, what was revoked before the cut is outdated; that
is the one operation left out here.
-/

namespace AccessHarness

namespace AccessState

/-- What the platform holds and the ledger does not know of. -/
def unrecorded (held : Transcript → Store) (s : AccessState) : Store :=
  held s.transcript \ s.ledger.entitlements

/-- What the ledger claims and the platform does not hold. -/
def outdated (held : Transcript → Store) (s : AccessState) : Store :=
  s.ledger.entitlements \ held s.transcript

end AccessState

/-- **Nothing became unrecorded.**  A client that cannot send has nothing to record. -/
structure Covered (held : Transcript → Store) (c : RestClient) (s s' : AccessState) : Prop where
  grows : s.transcript <:+ s'.transcript
  unrecorded : s'.unrecorded held ⊆ s.unrecorded held
  mute : ¬ c.CanSend → s'.ledger.entitlements ⊆ s.ledger.entitlements

/-- **Neither became anything unrecorded nor outdated.** -/
structure InStep (held : Transcript → Store) (c : RestClient) (s s' : AccessState) : Prop
    extends Covered held c s s' where
  outdated : s'.outdated held ⊆ s.outdated held

/-- What is the same change on two stores makes neither of them exceed the other by more. -/
theorem Change.apply_sdiff_apply (ch : Change) (S T : Store) :
    ch.apply S \ ch.apply T ⊆ S \ T := by
  intro x
  cases ch with
  | grant g =>
    rw [Change.apply, Change.apply, Set.mem_sdiff, Set.mem_union, Set.mem_union]
    tauto
  | revoke v =>
    rw [Change.apply, Change.apply, Set.mem_sdiff, Set.mem_sdiff, Set.mem_sdiff]
    tauto
  | delete ns =>
    rw [Change.apply, Change.apply, Set.mem_sdiff, Set.mem_sdiff, Set.mem_sdiff]
    tauto

section

variable {env : Environment} {held : Transcript → Store} {c : RestClient} {s s' : AccessState}

instance : IsPreorder AccessState (Covered held c) where
  refl _ := ⟨List.suffix_refl _, subset_rfl, fun _ => subset_rfl⟩
  trans _ _ _ h h' :=
    ⟨h.grows.trans h'.grows, h'.unrecorded.trans h.unrecorded,
      fun mute => (h'.mute mute).trans (h.mute mute)⟩

instance : IsPreorder AccessState (InStep held c) where
  refl s := ⟨refl_of _ s, subset_rfl⟩
  trans _ _ _ h h' := ⟨trans_of _ h.toCovered h'.toCovered, h'.outdated.trans h.outdated⟩

/-- A change on both sides keeps them in step. -/
theorem InStep.of_change (ch : Change) (grows : s.transcript <:+ s'.transcript)
    (done : held s'.transcript = ch.apply (held s.transcript))
    (recorded : s'.ledger.entitlements = ch.apply s.ledger.entitlements)
    (mute : ¬ c.CanSend → s'.ledger.entitlements ⊆ s.ledger.entitlements) :
    InStep held c s s' := by
  refine ⟨⟨grows, ?_, mute⟩, ?_⟩
  · unfold AccessState.unrecorded
    rw [done, recorded]
    exact ch.apply_sdiff_apply _ _
  · unfold AccessState.outdated
    rw [done, recorded]
    exact ch.apply_sdiff_apply _ _

/-- What changes neither side keeps them in step. -/
theorem InStep.of_same (grows : s.transcript <:+ s'.transcript)
    (same : held s'.transcript = held s.transcript) (ledger : s'.ledger = s.ledger) :
    InStep held c s s' := by
  refine ⟨⟨grows, ?_, ?_⟩, ?_⟩
  · unfold AccessState.unrecorded
    rw [same, ledger]
  · rw [ledger]
    exact fun _ => subset_rfl
  · unfold AccessState.outdated
    rw [same, ledger]

/-- What the platform loses alone is never unrecorded. -/
theorem Covered.of_reduced (h : Reduced held s.transcript s'.transcript)
    (ledger : s'.ledger = s.ledger) : Covered held c s s' := by
  refine ⟨h.grows, ?_, ?_⟩
  · unfold AccessState.unrecorded
    rw [ledger]
    exact Set.sdiff_subset_sdiff_left h.shrinks
  · rw [ledger]
    exact fun _ => subset_rfl

open Program (Leads)

theorem leads_inStep_of_untouched {α : Type} {m : Session α} (h : Leads (Untouched held) env m) :
    Leads (InStep held c) env (liftM m : AccessAct α) := fun s =>
  .of_same (h s.transcript).grows (h s.transcript).same rfl

theorem leads_covered_of_reduced {α : Type} {m : Session α} (h : Leads (Reduced held) env m) :
    Leads (Covered held c) env (liftM m : AccessAct α) := fun s =>
  .of_reduced (h s.transcript) rfl

end

/-! ### One request, then its record -/

namespace AccessModel

variable (m : AccessModel) (p : Principal)

theorem issueGrant_eq (e : EntityId) (actions : ActionSet) :
    m.issueGrant p e actions =
      (liftM (m.admin.ask (.grant ⟨e, p, actions⟩)) >>= fun _ =>
        AccessAct.record fun l => l.recordGrant p e actions) := rfl

theorem issueGrants_cons (e : EntityId) (actions : ActionSet)
    (rest : List (EntityId × ActionSet)) :
    m.issueGrants p ((e, actions) :: rest) =
      (m.issueGrant p e actions >>= fun _ => m.issueGrants p rest) := rfl

/-- The refresh comes last, so what comes before it is one request with its record. -/
theorem revoke_some_eq (e : EntityId) (actions : Option (List Action)) :
    m.revoke p (some e) actions =
      ((do
        liftM (m.admin.ask (.revoke ⟨e, some p, actions.map ActionSet.ofList⟩))
        AccessAct.record fun l => l.recordRevoke p e (actions.map ActionSet.ofList) :
          AccessAct Unit) >>= fun _ => liftM m.refresh) := by
  rw [bind_assoc]
  rfl

end AccessModel

section

variable {env : Environment} {held : Transcript → Store} (F : Faithful env held)
variable (m : AccessModel) (p : Principal)

include F

open Program (Leads)

/-- **A request with its record next to it keeps ledger and platform in step.** -/
theorem Faithful.leads_ask_record (c : RestClient) (ch : Change) {f : Ledger → Ledger}
    (hf : ∀ l, (f l).entitlements = ch.apply l.entitlements) :
    Leads (InStep held c) env (do
      liftM (c.ask ch)
      AccessAct.record f : AccessAct Unit) := by
  intro s
  rw [Program.bind_apply, AccessAct.liftM_apply]
  have asked := F.asked c ch s.transcript
  generalize c.ask ch env s.transcript = out at asked ⊢
  cases asked with
  | unsent f mute => exact refl_of _ s
  | refused f r sends asked refusal same =>
    exact .of_same (env.suffix_after _ r) same rfl
  | accepted r sends asked acceptance done =>
    exact .of_change ch (env.suffix_after _ r) done (hf s.ledger)
      fun mute => absurd sends mute

namespace AccessModel

theorem leads_refresh : Leads (InStep held m.admin) env (liftM m.refresh : AccessAct Unit) :=
  leads_inStep_of_untouched (F.leads_refresh m)

theorem leads_issueGrant (e : EntityId) (actions : ActionSet) :
    Leads (InStep held m.admin) env (m.issueGrant p e actions) := by
  rw [issueGrant_eq]
  refine F.leads_ask_record m.admin (.grant ⟨e, p, actions⟩) ?_
  intro l
  exact l.entitlements_recordGrant ⟨e, p, actions⟩

theorem leads_grant (e : EntityId) (actions : List Action) :
    Leads (InStep held m.admin) env (m.grant p e actions) :=
  .bind (leads_issueGrant F m p e _) fun _ => leads_refresh F m

theorem leads_issueGrants (plan : List (EntityId × ActionSet)) :
    Leads (InStep held m.admin) env (m.issueGrants p plan) := by
  induction plan with
  | nil => exact .pure ()
  | cons entry rest ih =>
    obtain ⟨e, actions⟩ := entry
    rw [issueGrants_cons]
    exact .bind (leads_issueGrant F m p e actions) fun _ => ih

theorem leads_grantAll (plan : PrivilegePlan) :
    Leads (InStep held m.admin) env (m.grantAll p plan) :=
  .bind (leads_issueGrants F m p plan.toList) fun _ =>
    .bind (leads_refresh F m) fun _ => .pure _

theorem leads_grantIfMissing (e : EntityId) (a : Action) :
    Leads (InStep held m.admin) env (m.grantIfMissing p e a) := by
  have read : Leads (InStep held m.admin) env AccessAct.ledger := fun s => refl_of _ s
  refine .bind read ?_
  intro l
  -- recorded already, or listed already, or granted now
  split
  · exact .pure ()
  · refine .bind (leads_inStep_of_untouched (F.leads_get _ _ _)) ?_
    intro listing
    split
    · exact .pure ()
    · exact leads_grant F m p e [a]

theorem leads_revoke_some (e : EntityId) (actions : Option (List Action)) :
    Leads (InStep held m.admin) env (m.revoke p (some e) actions) := by
  have asked := F.leads_ask_record m.admin (.revoke ⟨e, some p, actions.map ActionSet.ofList⟩)
    fun l => l.entitlements_recordRevoke p e (actions.map ActionSet.ofList)
  rw [revoke_some_eq]
  exact .bind asked fun _ => leads_refresh F m

end AccessModel

end

end AccessHarness
