import AccessHarness.Proofs.Scenario.Calls

/-!
# No privilege is left behind

A context is torn down at the end of a scenario, whatever became of the scenario.  To delete
what is registered the administrator may be granted more first, and any request may be refused
meanwhile.

* `Context.exists_teardown` — a teardown in two parts: deletions that leave nothing unrecorded,
  then the teardown of the access model, which sees every grant.
* `Context.no_privilege_left` — a teardown that succeeds leaves nothing that was not held before
  the context was opened; one that fails leaves what it was refused to take back.

### What is load-bearing

Nothing the platform holds is ever missing from the ledger, beyond what it held at first
(`Covered`).  Deletions of the cleanup are not all recorded, and need not be: what the platform
loses alone cannot be left behind.  The one deletion that is recorded afterwards, that of a
namespace, must have succeeded (`Context.voided_of_cleanupNamespace`).
-/

namespace AccessHarness

namespace Context

open Program (Leads)

/-! ### The parts of a teardown -/

section

variable {env : Environment} (c : Context) {R : AccessState → AccessState → Prop}
variable [IsPreorder AccessState R]

/-- **Every registered entity is tried**, and where each step leads, the series does. -/
theorem leads_cleanupEntities (step : ∀ e, Leads R env (c.cleanupEntity e)) (es : List EntityId)
    (first : Option Fault) (s : AccessState) :
    ∃ first' s', c.cleanupEntities es first env s = (.ok first', s') ∧ R s s' := by
  induction es generalizing first s with
  | nil => exact ⟨first, s, rfl, refl_of R s⟩
  | cons e rest ih =>
    unfold cleanupEntities
    rw [Program.bind_apply, AccessAct.attempt_apply]
    obtain ⟨first', s', ended, later⟩ := ih (Context.firstFailure first (c.cleanupEntity e env s).1)
      (c.cleanupEntity e env s).2
    exact ⟨first', s', ended, trans_of R (step e s) later⟩

/-- **Every registered namespace is tried**, and a deletion that succeeds is recorded. -/
theorem leads_cleanupNamespaces (step : ∀ ns, Leads R env (c.cleanupNamespace ns))
    (recorded : ∀ ns s u, (c.cleanupNamespace ns env s).1 = .ok u →
      R (c.cleanupNamespace ns env s).2
        ⟨(c.cleanupNamespace ns env s).2.transcript,
          (c.cleanupNamespace ns env s).2.ledger.recordNamespaceDeleted ns⟩)
    (nss : List NamespaceId) (first : Option Fault) (s : AccessState) :
    ∃ first' s', c.cleanupNamespaces nss first env s = (.ok first', s') ∧ R s s' := by
  induction nss generalizing first s with
  | nil => exact ⟨first, s, rfl, refl_of R s⟩
  | cons ns rest ih =>
    unfold cleanupNamespaces
    rw [Program.bind_apply, AccessAct.attempt_apply]
    have one := step ns s
    have voided := recorded ns s
    generalize c.cleanupNamespace ns env s = out at one voided ⊢
    obtain ⟨f | u, s₁⟩ := out
    · obtain ⟨first', s', ended, later⟩ := ih (Context.firstFailure first (.error f)) s₁
      exact ⟨first', s', ended, trans_of R one later⟩
    · obtain ⟨first', s', ended, later⟩ := ih (Context.firstFailure first (.ok u))
        ⟨s₁.transcript, s₁.ledger.recordNamespaceDeleted ns⟩
      exact ⟨first', s', ended, trans_of R one (trans_of R (voided u rfl) later)⟩

omit [IsPreorder AccessState R] in
/-- **A teardown goes through its parts**: entities, namespaces, and then the access model, whose
failure is a failure of the whole. -/
theorem teardown_of_parts {s : ContextState} {first first' : Option Fault} {s₁ s₂ : AccessState}
    (entities : c.cleanupEntities s.entities.reverse none env s.access = (.ok first, s₁))
    (namespaces : c.cleanupNamespaces s.namespaces.reverse first env s₁ = (.ok first', s₂)) :
    (c.teardown env s).2.access = (c.access.teardown env s₂).2 ∧
      (c.teardown env s).1 =
        AccessModel.outcomeOf (AccessModel.firstFailure first' (c.access.teardown env s₂).1) := by
  unfold teardown
  simp only [Program.bind_apply, ContextAct.state_apply, ContextAct.update_apply,
    ContextAct.liftM_apply, entities, namespaces, AccessAct.attempt_apply]
  cases AccessModel.outcomeOf (AccessModel.firstFailure first' (c.access.teardown env s₂).1) with
  | error f => exact ⟨rfl, rfl⟩
  | ok u => exact ⟨rfl, rfl⟩

end

variable {env : Environment} {held : Transcript → Store} (F : Faithful env held) (c : Context)

include F

/-! ### Cleanup -/

/-- Before anything is deleted the administrator may be granted what that takes. -/
private theorem leads_grantIfMissing (e : EntityId) :
    Leads (Covered held c.access.admin) env
      (c.access.grantIfMissing c.adminPrincipal e .admin) :=
  .mono InStep.toCovered (AccessModel.leads_grantIfMissing F c.access c.adminPrincipal e .admin)

theorem leads_cleanupEntity (e : EntityId) :
    Leads (Covered held c.access.admin) env (c.cleanupEntity e) := by
  have deleted (path : String) : Leads (Covered held c.access.admin) env
      (liftM (c.admin.delete path) : AccessAct Unit) :=
    leads_covered_of_reduced (F.leads_delete c.admin path)
  cases e with
  | dataset ns name => exact .bind (leads_grantIfMissing F c _) fun _ => deleted _
  | stream ns name => exact .bind (leads_grantIfMissing F c _) fun _ => deleted _
  | application ns name => exact .bind (leads_grantIfMissing F c _) fun _ => deleted _
  | _ => exact .pure ()

theorem leads_cleanupNamespace (ns : NamespaceId) :
    Leads (Covered held c.access.admin) env (c.cleanupNamespace ns) :=
  .bind (leads_grantIfMissing F c _) fun _ =>
    leads_covered_of_reduced (F.leads_delete c.admin _)

/-- A namespace whose cleanup succeeded contains nothing that anybody holds. -/
theorem voided_of_cleanupNamespace {ns : NamespaceId} {s : AccessState} {u : Unit}
    (h : (c.cleanupNamespace ns env s).1 = .ok u) :
    Disjoint (held (c.cleanupNamespace ns env s).2.transcript) ns.contents := by
  unfold cleanupNamespace at h ⊢
  rw [Program.bind_apply] at h ⊢
  generalize c.access.grantIfMissing c.adminPrincipal ns.toEntity .admin env s = out at h ⊢
  obtain ⟨f | u', s₁⟩ := out
  · cases h
  · have asked := F.asked c.admin (.delete ns) s₁.transcript
    change Asked env held c.admin (.delete ns) s₁.transcript
      (c.admin.deleteNamespace ns env s₁.transcript) at asked
    simp only [AccessAct.liftM_apply] at h ⊢
    generalize c.admin.deleteNamespace ns env s₁.transcript = out at asked h ⊢
    cases asked with
    | unsent f mute => cases h
    | refused f r sends asked refusal same => cases h
    | accepted r sends asked acceptance done =>
      simp only
      rw [done]
      exact Set.disjoint_sdiff_left

omit F in
/-- Nothing becomes unrecorded by forgetting what nobody holds. -/
theorem covered_namespaceDeleted {a : RestClient} {ns : NamespaceId} {s : AccessState}
    (void : Disjoint (held s.transcript) ns.contents) :
    Covered held a s { s with ledger := s.ledger.recordNamespaceDeleted ns } := by
  have recorded := s.ledger.entitlements_recordNamespaceDeleted ns
  refine ⟨List.suffix_refl _, ?_, fun _ => ?_⟩
  · rintro x ⟨holds, unknown⟩
    refine ⟨holds, ?_⟩
    intro known
    refine unknown ?_
    rw [recorded]
    exact ⟨known, Set.disjoint_left.1 void holds⟩
  · rw [recorded]
    exact Set.sdiff_subset

/-- **A teardown in two parts**: deletions that leave nothing unrecorded, then the teardown of
the access model, whose failure is a failure of the whole. -/
theorem exists_teardown (s : ContextState) :
    ∃ mid first, Covered held c.access.admin s.access mid ∧
      (c.teardown env s).2.access = (c.access.teardown env mid).2 ∧
      (c.teardown env s).1 =
        AccessModel.outcomeOf (AccessModel.firstFailure first (c.access.teardown env mid).1) := by
  obtain ⟨first, s₁, ended, entities⟩ := c.leads_cleanupEntities (leads_cleanupEntity F c)
    s.entities.reverse none s.access
  have recorded (ns : NamespaceId) (s : AccessState) (u : Unit)
      (ok : (c.cleanupNamespace ns env s).1 = .ok u) :=
    covered_namespaceDeleted (a := c.access.admin) (voided_of_cleanupNamespace F c ok)
  obtain ⟨first', s₂, ended', namespaces⟩ := c.leads_cleanupNamespaces (leads_cleanupNamespace F c)
    recorded s.namespaces.reverse first s₁
  exact ⟨s₂, first', trans_of _ entities namespaces, c.teardown_of_parts ended ended'⟩

/-! ### What is left -/

/-- **No privilege is left behind.**  However a scenario went, a teardown that succeeds leaves a
platform that holds nothing it did not hold when the context was opened; and if one fails, it
was refused to take back what is left. -/
theorem no_privilege_left (t : Transcript) (calls : List ContextCall) :
    let s := c.after env calls (.start t)
    let torn := c.teardown env s
    (torn.1 = .ok () → held torn.2.access.transcript ⊆ held t) ∧
      ∀ f, torn.1 = .error f → ∀ x ∈ held torn.2.access.transcript, x ∉ held t →
        ∃ v : RevokeRequest, x ∈ v.covers ∧ (Change.revoke v).AnsweredIn false
          (torn.2.access.transcript.since s.access.transcript) := by
  intro s torn
  have sofar : Covered held c.access.admin (ContextState.start t).access s.access := by
    refine Leads.inTurn (R := InvImage (Covered held c.access.admin) ContextState.access) ?_ _
    intro m mem
    obtain ⟨call, -, rfl⟩ := List.mem_map.1 mem
    exact ContextCall.covered_run F c call
  obtain ⟨mid, first, cleaned, access, outcome⟩ := exists_teardown F c s
  have whole : Covered held c.access.admin (ContextState.start t).access mid :=
    trans_of _ sofar cleaned
  have reduced := (AccessModel.revoking_teardown F.toKeeping c.access mid).toReduced
  rw [← access] at reduced
  -- whatever is left and was not held at first is in the ledger when the revocations begin
  have recorded {x} (remains : x ∈ held torn.2.access.transcript) (new : x ∉ held t) :
      x ∈ mid.ledger.entitlements := by
    by_contra unknown
    exact new (whole.unrecorded ⟨reduced.shrinks remains, unknown⟩).1
  have survivor {x} (remains : x ∈ held torn.2.access.transcript) (new : x ∉ held t) :=
    AccessModel.survivor_of_teardown F c.access (recorded remains new) (access ▸ remains)
  refine ⟨?_, ?_⟩
  · intro ok x remains
    by_contra new
    obtain ⟨⟨f, failed⟩, -⟩ := survivor remains new
    rw [show torn.1 = _ from outcome, failed] at ok
    cases first <;> cases ok
  · intro f _ x remains new
    have sends : c.access.admin.CanSend := by
      -- otherwise the ledger is as empty as it was at first
      by_contra mute
      have claimed := whole.mute mute (recorded remains new)
      rw [show (ContextState.start t).access.ledger = Ledger.empty from rfl,
        Ledger.entitlements_empty] at claimed
      exact claimed
    obtain ⟨v, covered, refused⟩ := (survivor remains new).2 sends
    rw [← access] at refused
    exact ⟨v, covered, (Change.answeredIn_since_trans cleaned.grows reduced.grows).2 (.inl refused)⟩

omit F in
/-- Where nothing is registered, only grants are torn down. -/
theorem teardown_of_nothing_registered {s : ContextState} (entities : s.entities = [])
    (namespaces : s.namespaces = []) :
    (c.teardown env s).1 = (c.access.teardown env s.access).1 := by
  unfold teardown
  simp only [Program.bind_apply, ContextAct.state_apply, ContextAct.update_apply,
    ContextAct.liftM_apply, entities, namespaces, List.reverse_nil]
  have noEntity : c.cleanupEntities [] none env s.access = (.ok none, s.access) := rfl
  have noNamespace : c.cleanupNamespaces [] none env s.access = (.ok none, s.access) := rfl
  simp only [noEntity, noNamespace, AccessAct.attempt_apply]
  cases (c.access.teardown env s.access).1 <;> rfl

end Context

/-- Bob is let into a namespace, and is out again once the context is torn down. -/
theorem Context.no_privilege_left_of_accepting :
    let P := StorePlatform.accepting {⟨.user "alice", .space "a", .read⟩}
    let s := Context.local.after P.environment
      [.access (.grant (.user "bob") (.space "a") [.read, .admin])] (.start [])
    let torn := Context.local.teardown P.environment s
    torn.1 = .ok () ∧ P.held torn.2.access.transcript ⊆ P.held [] := by
  intro P s torn
  have ok : torn.1 = .ok () := by
    refine (Context.teardown_of_nothing_registered .local rfl rfl).trans ?_
    refine (AccessModel.teardown_of_obliging P.faithful (StorePlatform.obliging_accepting _)
      .local ?_).2.2 nofun
    exact fun mute => absurd RestClient.canSend_local mute
  exact ⟨ok, (Context.no_privilege_left P.faithful .local [] _).1 ok⟩

end AccessHarness
