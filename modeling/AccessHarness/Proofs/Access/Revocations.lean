import AccessHarness.Proofs.Access.Steps

/-!
# Series of revocations

Two operations send one revocation after the other.  Revoking everything from a principal stops
at the first refusal; tearing down tries them all.

* `RevokedAll` — what can come of a series of the first kind; `Interrupted` — it was cut short
  after it had taken something away that the ledger still claims.
* `RevokedAll.inStep`, `RevokedAll.exists_outdated` — unless this happens revoking everything
  keeps ledger and platform in step, and if it happens it does not.
* `AccessModel.rel_teardown` — where a teardown leads, from where its requests lead.
* `GrantsTried` — what can be said after a series of the second kind, of any length: it is kept
  by putting two series together (`GrantsTried.trans`).
* `survivor_of_teardown` — why something is left of the grants.

### What is load-bearing

The ledger is written after the whole of a series of the first kind, so only the transcript can
tell how far it came.  `Revoking` says of any part of it what was taken away; nothing else about
the series is used.
-/

namespace AccessHarness

open Program (Leads)

variable {env : Environment} {held : Transcript → Store}

/-- **Asking for a revocation revokes at most that**, whatever is made of the answer. -/
theorem Keeping.leads_ask_revoke (K : Keeping env held) (c : RestClient)
    {which : RevokeRequest → Prop} {v : RevokeRequest} (kind : which v) :
    Leads (Revoking held which) env (c.ask (.revoke v)) := by
  intro t
  rw [c.ask_apply rfl]
  cases sent : (Change.revoke v).requestOf c with
  | error f => exact refl_of _ t
  | ok r =>
    have asked : (Change.revoke v).AskedBy r := ⟨c, sent⟩
    refine ⟨⟨env.suffix_after t r, ?_⟩, ?_, ?_⟩
    · show held (env.after t r) ⊆ held t
      rw [K.held_after asked]
      split
      · exact Set.sdiff_subset
      · exact subset_rfl
    · intro v' x answered covered
      -- the same request may ask for another revocation too; then that was carried out as well
      obtain ⟨asked', accepted⟩ := Change.answeredIn_after.1 answered
      show x ∉ held (env.after t r)
      rw [K.applied asked' accepted]
      exact fun remains => remains.2 covered
    · intro x before after
      change x ∉ held (env.after t r) at after
      rw [K.held_after asked] at after
      split at after
      · rename_i accepted
        refine ⟨v, kind, ?_, Change.answeredIn_after.2 ⟨asked, accepted⟩⟩
        by_contra spared
        exact after ⟨before, spared⟩
      · exact absurd before after

namespace AccessModel

/-! ### Everything of a principal -/

/-- A revocation of everything on some entity. -/
def revokesWhole (p : Principal) (v : RevokeRequest) : Prop :=
  v.principal = some p ∧ v.actions = none

/-- **What can come of revoking everything from a principal**: it got no listing, it was cut
short, or it came to its end and nothing is left. -/
inductive RevokedAll (held : Transcript → Store) (p : Principal) (s s' : AccessState) : Prop
  | unlisted (untouched : Untouched held s.transcript s'.transcript) (ledger : s'.ledger = s.ledger)
  | cut (revoking : Revoking held (revokesWhole p) s.transcript s'.transcript)
      (ledger : s'.ledger = s.ledger) (e : EntityId)
      (refused : (Change.revoke ⟨e, some p, none⟩).AnsweredIn false
        (s'.transcript.since s.transcript))
  | complete (revoking : Revoking held (revokesWhole p) s.transcript s'.transcript)
      (ledger : s'.ledger = s.ledger.recordRevokeAll p)
      (nothing : ∀ x ∈ held s'.transcript, x.principal ≠ p)
      (unrefused : ∀ ch : Change, ¬ ch.AnsweredIn false (s'.transcript.since s.transcript))

/-- **Revoking everything was cut short** after something was taken away that the ledger
claims. -/
def Interrupted (p : Principal) (s s' : AccessState) : Prop :=
  ∃ e, (∃ a, s.ledger.holds p e a = true) ∧
    (Change.revoke ⟨e, some p, none⟩).AnsweredIn true (s'.transcript.since s.transcript) ∧
    ∃ e', (Change.revoke ⟨e', some p, none⟩).AnsweredIn false (s'.transcript.since s.transcript)

section

variable {p : Principal} {s s' : AccessState}

/-- Nothing that is held is forgotten. -/
theorem RevokedAll.covered {c : RestClient} (h : RevokedAll held p s s') :
    Covered held c s s' := by
  cases h with
  | unlisted untouched ledger => exact .of_reduced untouched.reduced ledger
  | cut revoking ledger e refused => exact .of_reduced revoking.toReduced ledger
  | complete revoking ledger nothing unrefused =>
    have kept : s'.ledger.entitlements = s.ledger.entitlements \ p.share := by
      rw [ledger, Ledger.entitlements_recordRevokeAll]
    refine ⟨revoking.grows, ?_, ?_⟩
    · rintro x ⟨remains, unknown⟩
      refine ⟨revoking.shrinks remains, ?_⟩
      intro known
      rw [kept] at unknown
      exact unknown ⟨known, nothing x remains⟩
    · intro _
      rw [kept]
      exact Set.sdiff_subset

/-- What is outdated after everything was revoked was outdated before, or a series was
interrupted. -/
theorem RevokedAll.inStep {c : RestClient} (h : RevokedAll held p s s')
    (whole : ¬ Interrupted p s s') : InStep held c s s' := by
  refine ⟨h.covered, ?_⟩
  rintro x ⟨known, lost⟩
  -- in all cases: what the ledger still claims it claimed before, and it was held
  by_contra unknown
  have lost_of (claimed : x ∈ s.ledger.entitlements) : x ∈ held s.transcript := by
    by_contra absent
    exact unknown ⟨claimed, absent⟩
  cases h with
  | unlisted untouched ledger =>
    rw [ledger] at known
    rw [untouched.same] at lost
    exact lost (lost_of known)
  | cut revoking ledger e refused =>
    rw [ledger] at known
    obtain ⟨⟨e', p', actions⟩, ⟨rfl, rfl⟩, covered, accepted⟩ := revoking.cause (lost_of known) lost
    obtain ⟨person, rfl, -⟩ := covered
    refine whole ⟨x.entity, ⟨x.action, ?_⟩, accepted, e, refused⟩
    rw [← person p rfl]
    exact known
  | complete revoking ledger nothing unrefused =>
    rw [ledger, Ledger.entitlements_recordRevokeAll] at known
    obtain ⟨v, ⟨person, -⟩, covered, -⟩ := revoking.cause (lost_of known.1) lost
    exact known.2 (covered.1 p person)

/-- **An interrupted series leaves the ledger outdated.** -/
theorem RevokedAll.exists_outdated (h : RevokedAll held p s s')
    (interrupted : Interrupted p s s') : (s'.outdated held).Nonempty := by
  obtain ⟨e, ⟨a, claimed⟩, accepted, e', refused⟩ := interrupted
  cases h with
  | unlisted untouched ledger => exact absurd refused (untouched.silent _ _)
  | complete revoking ledger nothing unrefused => exact absurd refused (unrefused _)
  | cut revoking ledger e'' refused' =>
    refine ⟨⟨p, e, a⟩, ?_, ?_⟩
    · rw [ledger]
      exact claimed
    · exact revoking.gone accepted (by simp [RevokeRequest.mem_covers])

end

/-- **How a series ends**: accepted throughout, or with a refusal. -/
inductive SeriesEnd (p : Principal) (es : List EntityId) (during : Transcript) :
    Outcome Unit → Prop
  | complete (u : Unit)
      (accepted : ∀ e ∈ es, (Change.revoke ⟨e, some p, none⟩).AnsweredIn true during)
      (unrefused : ∀ ch : Change, ¬ ch.AnsweredIn false during) : SeriesEnd p es during (.ok u)
  | cut (f : Fault) (e : EntityId)
      (refused : (Change.revoke ⟨e, some p, none⟩).AnsweredIn false during) :
      SeriesEnd p es during (.error f)

/-- An accepted revocation in front of a series. -/
theorem SeriesEnd.cons {p : Principal} {e : EntityId} {es : List EntityId}
    {first later : Transcript} {o : Outcome Unit}
    (accepted : (Change.revoke ⟨e, some p, none⟩).AnsweredIn true first)
    (unrefused : ∀ ch : Change, ¬ ch.AnsweredIn false first) (h : SeriesEnd p es later o) :
    SeriesEnd p (e :: es) (later ++ first) o := by
  cases h with
  | cut f e' refused => exact .cut f e' (Change.answeredIn_append.2 (.inl refused))
  | complete u rest unrefusedLater =>
    refine .complete u ?_ ?_
    · intro e' mem
      rw [Change.answeredIn_append]
      rcases List.mem_cons.1 mem with rfl | mem
      · exact .inr accepted
      · exact .inl (rest e' mem)
    · intro ch
      rw [Change.answeredIn_append]
      rintro (refused | refused)
      · exact unrefusedLater ch refused
      · exact unrefused ch refused

theorem revokeEntities_cons (m : AccessModel) (p : Principal) (e : EntityId)
    (rest : List EntityId) :
    m.revokeEntities p (e :: rest) =
      (m.admin.ask (.revoke ⟨e, some p, none⟩) >>= fun _ => m.revokeEntities p rest) := rfl

theorem mem_entitiesOf {listing : OrderedSet Privilege} {e : EntityId} :
    e ∈ entitiesOf listing ↔ ∃ a, OrderedMap.contains listing ⟨e, a⟩ = true := by
  unfold entitiesOf
  rw [OrderedSet.mem_members_iff, OrderedSet.contains_ofMembers, List.mem_map]
  constructor
  · rintro ⟨⟨e', a⟩, mem, rfl⟩
    exact ⟨a, (OrderedSet.mem_members_iff listing).1 mem⟩
  · rintro ⟨a, contained⟩
    exact ⟨⟨e, a⟩, (OrderedSet.mem_members_iff listing).2 contained, rfl⟩

section

variable (F : Faithful env held) (m : AccessModel) (p : Principal)

include F

theorem leads_revokeEntities (es : List EntityId) :
    Leads (Revoking held (revokesWhole p)) env (m.revokeEntities p es) := by
  induction es with
  | nil => exact .pure ()
  | cons e rest ih => exact .bind (F.leads_ask_revoke m.admin ⟨rfl, rfl⟩) fun _ => ih

/-- **A client that can send ends a series in one of the two ways.** -/
theorem seriesEnd_revokeEntities (sends : m.admin.CanSend) (es : List EntityId)
    (t : Transcript) :
    SeriesEnd p es ((m.revokeEntities p es env t).2.since t) (m.revokeEntities p es env t).1 := by
  induction es generalizing t with
  | nil =>
    refine .complete () ?_ ?_
    · intro e mem
      cases mem
    · intro ch
      show ¬ ch.AnsweredIn false (t.since t)
      rw [Transcript.since_self]
      exact Change.not_answeredIn_nil
  | cons e rest ih =>
    rw [revokeEntities_cons, Program.bind_apply]
    have asked := F.asked m.admin (.revoke ⟨e, some p, none⟩) t
    generalize m.admin.ask (.revoke ⟨e, some p, none⟩) env t = out at asked ⊢
    cases asked with
    | unsent f mute => exact absurd sends mute
    | refused f r sends asked refusal same =>
      exact .cut f e (Change.answeredIn_after.2 ⟨asked, refusal⟩)
    | accepted r sends asked acceptance done =>
      have later := (leads_revokeEntities F m p rest (env.after t r)).grows
      show SeriesEnd p (e :: rest) ((m.revokeEntities p rest env (env.after t r)).2.since t)
        (m.revokeEntities p rest env (env.after t r)).1
      rw [Transcript.since_trans (env.suffix_after t r) later]
      refine (ih (env.after t r)).cons (Change.answeredIn_after.2 ⟨asked, acceptance⟩) ?_
      intro ch refused
      have answer := (Change.answeredIn_after.1 refused).2
      rw [acceptance] at answer
      cases answer

/-- **Revoking everything comes to one of the three.** -/
theorem revokedAll (actions : Option (List Action)) (s : AccessState) :
    RevokedAll held p s (m.revoke p none actions env s).2 := by
  unfold AccessModel.revoke
  simp only [Program.bind_apply, AccessAct.liftM_apply, AccessAct.record_apply]
  have listed : Untouched held s.transcript (m.privileges p env s.transcript).2 :=
    F.leads_get _ _ _ s.transcript
  rcases listing? : m.privileges p env s.transcript with ⟨f | listing, t₁⟩ <;>
    rw [listing?] at listed
  · exact .unlisted listed rfl
  · obtain ⟨sends, reported⟩ := F.privileges_eq_ok listing?
    have revoking := leads_revokeEntities F m p (entitiesOf listing) t₁
    have ended := seriesEnd_revokeEntities F m p sends (entitiesOf listing) t₁
    simp only
    generalize m.revokeEntities p (entitiesOf listing) env t₁ = out at revoking ended ⊢
    obtain ⟨o, t₂⟩ := out
    -- a listing is no revocation, so the series is all that was asked for
    have sofar : Revoking held (revokesWhole p) s.transcript t₂ :=
      trans_of _ listed.revoking revoking
    have refused_of {ch : Change} :
        ch.AnsweredIn false (t₂.since s.transcript) ↔ ch.AnsweredIn false (t₂.since t₁) := by
      rw [Change.answeredIn_since_trans listed.grows revoking.grows]
      exact or_iff_left (listed.silent ch false)
    cases ended with
    | cut f e refused => exact .cut sofar rfl e (refused_of.2 refused)
    | complete u accepted unrefused =>
      have refreshed := F.leads_refresh m t₂
      refine .complete (trans_of _ sofar refreshed.revoking) rfl ?_ ?_
      · -- what remains was held before, so it was listed, so it was revoked
        rintro ⟨p', e, a⟩ remains (rfl : p' = p)
        rw [show held (m.refresh env t₂).2 = held t₂ from refreshed.same] at remains
        have before := revoking.shrinks remains
        rw [show held t₁ = held s.transcript from listed.same] at before
        have mem := mem_entitiesOf.2 ⟨a, (reported e a).2 before⟩
        exact revoking.gone (accepted e mem) (by simp [RevokeRequest.mem_covers]) remains
      · intro ch
        show ¬ ch.AnsweredIn false ((m.refresh env t₂).2.since s.transcript)
        rw [Change.answeredIn_since_trans sofar.grows refreshed.grows, refused_of]
        rintro (refused | refused)
        · exact refreshed.silent ch false refused
        · exact unrefused ch refused

end

/-! ### Recorded grants -/

theorem revokeGrants_cons (m : AccessModel) (g : Grant) (rest : List Grant)
    (first : Option Fault) :
    m.revokeGrants (g :: rest) first =
      (AccessAct.attempt (liftM (m.admin.ask (.revoke g.revocation))) >>= fun
        | .ok () => do
          AccessAct.record fun l => l.recordRevoke g.principal g.entity (some g.actions)
          m.revokeGrants rest first
        | .error f => m.revokeGrants rest (firstFailure first (.error f))) := rfl

/-- No revocation ends the series of a teardown. -/
theorem exists_revokeGrants_eq_ok (m : AccessModel) (env : Environment) (gs : List Grant)
    (first : Option Fault) (s : AccessState) :
    ∃ first' s', m.revokeGrants gs first env s = (.ok first', s') := by
  induction gs generalizing first s with
  | nil => exact ⟨first, s, rfl⟩
  | cons g rest ih =>
    rw [revokeGrants_cons, Program.bind_apply, AccessAct.attempt_apply, AccessAct.liftM_apply]
    generalize m.admin.ask (.revoke g.revocation) env s.transcript = out
    obtain ⟨f | u, t⟩ := out
    · exact ih _ _
    · exact ih _ _

/-- **After the series of its grants** a teardown refreshes and forgets, whatever is to be
reported. -/
theorem teardown_apply {m : AccessModel} {s s₁ : AccessState} {first : Option Fault}
    (series : m.revokeGrants s.ledger.grants none env s = (.ok first, s₁)) :
    m.teardown env s = (outcomeOf (firstFailure first (m.refresh env s₁.transcript).1),
      ⟨(m.refresh env s₁.transcript).2, Ledger.empty⟩) := by
  unfold teardown
  rw [Program.bind_apply, AccessAct.ledger_apply]
  simp only [Program.bind_apply, series, AccessAct.attempt_apply, AccessAct.ofSession_apply,
    AccessAct.record_apply]
  cases outcomeOf (firstFailure first (m.refresh env s₁.transcript).1) <;> rfl

section

variable {R : Transcript → Transcript → Prop} [IsPreorder Transcript R] (m : AccessModel)

/-- **Where every revocation leads, the series leads.** -/
theorem leads_revokeGrants (gs : List Grant)
    (step : ∀ g ∈ gs, Leads R env (m.admin.ask (.revoke g.revocation))) (first : Option Fault) :
    Leads (InvImage R AccessState.transcript) env (m.revokeGrants gs first) := by
  induction gs generalizing first with
  | nil => exact .pure first
  | cons g rest ih =>
    have rest' (first : Option Fault) :=
      ih (fun g' mem => step g' (List.mem_cons_of_mem g mem)) first
    have asked : Leads (InvImage R AccessState.transcript) env
        (AccessAct.attempt (liftM (m.admin.ask (.revoke g.revocation)))) := fun s =>
      step g List.mem_cons_self s.transcript
    rw [revokeGrants_cons]
    refine .bind asked ?_
    rintro (f | u)
    · exact rest' _
    · exact .bind (fun s => refl_of R s.transcript) fun _ => rest' first

/-- So does the teardown, if the refresh leads there too. -/
theorem rel_teardown (s : AccessState)
    (step : ∀ g ∈ s.ledger.grants, Leads R env (m.admin.ask (.revoke g.revocation)))
    (refreshes : Leads R env m.refresh) :
    R s.transcript (m.teardown env s).2.transcript := by
  have revoked : R s.transcript (m.revokeGrants s.ledger.grants none env s).2.transcript :=
    m.leads_revokeGrants s.ledger.grants step none s
  obtain ⟨first, s₁, series⟩ := m.exists_revokeGrants_eq_ok env s.ledger.grants none s
  rw [series] at revoked
  rw [teardown_apply series]
  exact trans_of R revoked (refreshes s₁.transcript)

end

/-- **A teardown revokes at most what was recorded.** -/
theorem revoking_teardown (K : Keeping env held) (m : AccessModel) (s : AccessState) :
    Revoking held (fun v => ∃ g ∈ s.ledger.grants, v = g.revocation) s.transcript
      (m.teardown env s).2.transcript := by
  refine m.rel_teardown s ?_ fun t => (K.leads_refresh m t).revoking
  intro g mem
  exact K.leads_ask_revoke m.admin ⟨g, mem, rfl⟩

/-- **What can be said after every grant of a list was tried**: what is left of a grant is
left because of a fault, and if it could be sent, because of a refusal. -/
structure GrantsTried (env : Environment) (held : Transcript → Store) (c : RestClient)
    (gs : List Grant) (first first' : Option Fault) (t t' : Transcript) : Prop where
  revoking : Revoking held (fun v => ∃ g ∈ gs, v = g.revocation) t t'
  /-- A fault is never forgotten. -/
  carried : first ≠ none → first' ≠ none
  left : ∀ g ∈ gs, ∀ x ∈ g.revocation.covers, x ∈ held t' → first' ≠ none ∧
    (c.CanSend → (Change.revoke g.revocation).AnsweredIn false (t'.since t))
  /-- A fault has a reason. -/
  reason : first' ≠ none → first ≠ none ∨ gs ≠ [] ∧ ¬ c.CanSend ∨
    ∃ u r, r.method = "POST" ∧ (env.respond u r).isAccepted = false

theorem firstFailure_error_ne_none (first : Option Fault) (f : Fault) :
    firstFailure first (.error f) ≠ none := by
  cases first <;> exact Option.some_ne_none _

theorem firstFailure_ok (first : Option Fault) (u : Unit) :
    firstFailure first (.ok u) = first := by
  cases first <;> rfl

namespace GrantsTried

variable {c : RestClient} {gs gs' : List Grant} {first first₁ first₂ : Option Fault}
variable {t t₁ t₂ : Transcript}

/-- Where no grant is tried, nothing is asked for. -/
theorem of_untouched (h : Untouched held t t₁) : GrantsTried env held c [] first first t t₁ := by
  refine ⟨h.revoking, id, ?_, .inl⟩
  intro g mem
  cases mem

/-- **Two series make one.**  Nothing comes back in the second that was gone after the first,
and no fault of the first is forgotten in the second. -/
theorem trans (h : GrantsTried env held c gs first first₁ t t₁)
    (h' : GrantsTried env held c gs' first₁ first₂ t₁ t₂) :
    GrantsTried env held c (gs ++ gs') first first₂ t t₂ := by
  have grows := h.revoking.grows
  have grows' := h'.revoking.grows
  refine ⟨trans_of _ (h.revoking.weaken ?_) (h'.revoking.weaken ?_), h'.carried ∘ h.carried, ?_, ?_⟩
  · rintro v ⟨g, mem, rfl⟩
    exact ⟨g, List.mem_append_left gs' mem, rfl⟩
  · rintro v ⟨g, mem, rfl⟩
    exact ⟨g, List.mem_append_right gs mem, rfl⟩
  · intro g mem x covered remains
    simp only [Change.answeredIn_since_trans grows grows']
    rcases List.mem_append.1 mem with mem | mem
    · obtain ⟨failed, refused⟩ := h.left g mem x covered (h'.revoking.shrinks remains)
      exact ⟨h'.carried failed, fun sends => .inr (refused sends)⟩
    · obtain ⟨failed, refused⟩ := h'.left g mem x covered remains
      exact ⟨failed, fun sends => .inl (refused sends)⟩
  · intro failed
    rcases h'.reason failed with earlier | ⟨nonempty, mute⟩ | refused
    · refine (h.reason earlier).imp_right (.imp_left ?_)
      rintro ⟨nonempty, mute⟩
      exact ⟨List.append_ne_nil_of_left_ne_nil nonempty gs', mute⟩
    · exact .inr (.inl ⟨List.append_ne_nil_of_right_ne_nil gs nonempty, mute⟩)
    · exact .inr (.inr refused)

end GrantsTried

section

variable (F : Faithful env held) (m : AccessModel)

include F

/-- One grant is tried, and what comes of it is remembered. -/
theorem grantsTried_ask (g : Grant) (first : Option Fault) (t : Transcript) :
    GrantsTried env held m.admin [g] first
      (firstFailure first (m.admin.ask (.revoke g.revocation) env t).1) t
      (m.admin.ask (.revoke g.revocation) env t).2 := by
  have revoking : Revoking held (fun v => ∃ g' ∈ [g], v = g'.revocation) t
      (m.admin.ask (.revoke g.revocation) env t).2 :=
    F.leads_ask_revoke m.admin ⟨g, List.mem_singleton.2 rfl, rfl⟩ t
  have asked := F.asked m.admin (.revoke g.revocation) t
  generalize m.admin.ask (.revoke g.revocation) env t = out at asked revoking ⊢
  cases asked with
  | unsent f mute =>
    have failed : firstFailure first (.error f) ≠ none := firstFailure_error_ne_none first f
    refine ⟨revoking, fun _ => failed, ?_, fun _ => .inr (.inl ⟨List.cons_ne_nil g [], mute⟩)⟩
    intro g' mem x covered remains
    exact ⟨failed, fun sends => absurd sends mute⟩
  | refused f r sends asked refusal same =>
    have failed : firstFailure first (.error f) ≠ none := firstFailure_error_ne_none first f
    have post : r.method = "POST" := Change.method_eq_of_askedBy asked
    refine ⟨revoking, fun _ => failed, ?_, fun _ => .inr (.inr ⟨t, r, post, refusal⟩)⟩
    intro g' mem x covered remains
    rw [List.mem_singleton.1 mem]
    exact ⟨failed, fun _ => Change.answeredIn_after.2 ⟨asked, refusal⟩⟩
  | accepted r sends asked acceptance done =>
    rw [firstFailure_ok]
    refine ⟨revoking, id, ?_, .inl⟩
    intro g' mem x covered remains
    rw [List.mem_singleton.1 mem] at covered
    rw [done] at remains
    exact absurd covered remains.2

/-- **Every grant is tried**, whatever comes of the others. -/
theorem revokeGrants_spec (gs : List Grant) (first : Option Fault) (s : AccessState) :
    ∃ first' s', m.revokeGrants gs first env s = (.ok first', s') ∧
      GrantsTried env held m.admin gs first first' s.transcript s'.transcript := by
  induction gs generalizing first s with
  | nil => exact ⟨first, s, rfl, .of_untouched (refl_of _ s.transcript)⟩
  | cons g rest ih =>
    rw [revokeGrants_cons, Program.bind_apply, AccessAct.attempt_apply, AccessAct.liftM_apply]
    have one := grantsTried_ask F m g first s.transcript
    generalize m.admin.ask (.revoke g.revocation) env s.transcript = out at one ⊢
    obtain ⟨f | u, t₁⟩ := out
    · obtain ⟨first', s', ended, later⟩ := ih (firstFailure first (.error f)) ⟨t₁, s.ledger⟩
      exact ⟨first', s', ended, one.trans later⟩
    · rw [firstFailure_ok] at one
      obtain ⟨first', s', ended, later⟩ := ih first
        ⟨t₁, s.ledger.recordRevoke g.principal g.entity (some g.actions)⟩
      exact ⟨first', s', ended, one.trans later⟩

/-- **Teardown tries every recorded grant**; then it refreshes, and its outcome is the first
fault of both. -/
theorem teardown_spec (s : AccessState) :
    ∃ first t, GrantsTried env held m.admin s.ledger.grants none first s.transcript
        (m.teardown env s).2.transcript ∧
      (m.teardown env s).1 = outcomeOf (firstFailure first (m.refresh env t).1) := by
  obtain ⟨first, s₁, series, tried⟩ := revokeGrants_spec F m s.ledger.grants none s
  have whole := tried.trans (.of_untouched (F.leads_refresh m s₁.transcript))
  rw [List.append_nil] at whole
  rw [teardown_apply series]
  exact ⟨first, s₁.transcript, whole, rfl⟩

/-- **What survives a teardown survives because of a fault**, and if anything can be sent at
all, because its revocation was refused. -/
theorem survivor_of_teardown {s : AccessState} {x : Entitlement}
    (granted : x ∈ s.ledger.entitlements)
    (remains : x ∈ held (m.teardown env s).2.transcript) :
    (∃ f, (m.teardown env s).1 = .error f) ∧ (m.admin.CanSend → ∃ v : RevokeRequest,
      x ∈ v.covers ∧ (Change.revoke v).AnsweredIn false
        ((m.teardown env s).2.transcript.since s.transcript)) := by
  obtain ⟨first, t, tried, outcome⟩ := teardown_spec F m s
  obtain ⟨g, mem, covered⟩ := Ledger.mem_entitlements_iff_exists_grant.1 granted
  obtain ⟨failed, refused⟩ := tried.left g mem x covered remains
  refine ⟨?_, fun sends => ⟨g.revocation, covered, refused sends⟩⟩
  obtain ⟨f, rfl⟩ := Option.ne_none_iff_exists'.1 failed
  exact ⟨f, outcome⟩

end

end AccessModel

end AccessHarness
