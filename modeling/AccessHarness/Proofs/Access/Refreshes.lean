import AccessHarness.Proofs.Access.Asking

/-!
# Changes behind the cache

A platform may go on deciding as before until its cache is refreshed.  So what matters about a call
that changes privileges is whether its last accepted change was followed by a refresh.

* `Event.Consented`, `Event.Declined` — a grant or a revocation that was carried out, or was not.
* `AccessModel.Hides` — something was carried out, and nothing was refreshed after that.
* `Program.Petitions` — a program that asks for one change after the other and stops at the first
  that is declined.
* `AccessOperation.hides_iff` — exactly when a call of the access model leaves a change hidden.
* `AccessModel.grantAll_hides` — it can.

### What is load-bearing

**The refresh is the last step of every call**, and a call that stops early does not come to it.
Stopping early is what `Program.Petitions` is about: the changes accepted before the one that was
declined are carried out, and hidden.  A teardown never stops early, so it hides something only
where nothing can be refreshed at all.

**A client that cannot send has nothing to hide** (`Petitions.mute`): it fails without having asked
for anything.  This is why a call that fails has been declined something, or has changed nothing.
-/

namespace AccessHarness

open Program (Leads)
open Transcript (ExtendsWithin)

/-! ### Changes in a history -/

/-- **A grant or a revocation that was asked for**, and answered in some way. -/
def Event.AnsweredChange (way : Reply → Prop) (x : Event) : Prop :=
  ∃ ch r reply, ch.method = "POST" ∧ Change.AskedBy ch r ∧ x = .exchanged r reply ∧ way reply

/-- A grant or a revocation that was carried out. -/
abbrev Event.Consented : Event → Prop := Event.AnsweredChange Reply.Consents

/-- A grant or a revocation that was not carried out, as far as its caller can tell. -/
abbrev Event.Declined : Event → Prop := Event.AnsweredChange fun reply => ¬ reply.Consents

/-- A grant or a revocation, whatever the answer. -/
abbrev Event.IsChange : Event → Prop := Event.AnsweredChange fun _ => True

theorem Event.AnsweredChange.isChange {way : Reply → Prop} {x : Event}
    (h : x.AnsweredChange way) : x.IsChange := by
  obtain ⟨ch, r, reply, post, asked, same, -⟩ := h
  exact ⟨ch, r, reply, post, asked, same, trivial⟩

namespace AccessModel

variable {m : AccessModel}

theorem Refreshes.not_isChange {x : Event} (h : m.Refreshes x) : ¬ x.IsChange := by
  rintro ⟨ch, r, reply, -, asked, rfl, -⟩
  exact h.not_askedBy ch asked

/-- Where something was refreshed, it could be. -/
theorem Refreshes.canRefresh {x : Event} (h : m.Refreshes x) : m.CanRefresh := by
  intro invalidates
  unfold Refreshes at h
  rw [invalidates] at h
  obtain ⟨r, reply, -, sent⟩ := h
  exact ⟨r, sent⟩

variable (m) in
/-- **A change is hidden behind the cache**: it was carried out, and nothing was refreshed since. -/
def Hides (during : Transcript) : Prop :=
  ∃ later x earlier, during = later ++ x :: earlier ∧ x.Consented ∧ ∀ y ∈ later, ¬ m.Refreshes y

/-- **How a call ends** that asks for changes; `whole` says that it stops at nothing. -/
inductive Settled (m : AccessModel) (whole : Prop) (during : Transcript) : Prop
  /-- Nothing was carried out. -/
  | idle (unchanged : ∀ x ∈ during, ¬ x.Consented)
  /-- The policy did its part in the end. -/
  | refreshed (y : Event) (before : Transcript) (last : during = y :: before)
      (refreshes : m.Refreshes y) (unrefused : ¬ whole → ∀ x ∈ before, ¬ x.Declined)
  /-- The policy could not do its part. -/
  | unable (mute : ¬ m.CanRefresh) (quiet : ∀ x ∈ during, ¬ m.Refreshes x)
  /-- The call stopped at a change that was declined. -/
  | cut (early : ¬ whole) (declined : ∃ x ∈ during, x.Declined)
      (quiet : ∀ x ∈ during, ¬ m.Refreshes x)

/-- Where nothing was refreshed, every change that was carried out is hidden. -/
theorem hides_iff_of_quiet {during : Transcript} (quiet : ∀ x ∈ during, ¬ m.Refreshes x) :
    m.Hides during ↔ ∃ x ∈ during, x.Consented := by
  constructor
  · rintro ⟨later, x, earlier, rfl, consented, -⟩
    exact ⟨x, List.mem_append_right _ List.mem_cons_self, consented⟩
  · rintro ⟨x, mem, consented⟩
    obtain ⟨later, earlier, rfl⟩ := List.append_of_mem mem
    exact ⟨later, x, earlier, rfl, consented, fun y mem' => quiet y (List.mem_append_left _ mem')⟩

/-- **What is hidden by the way a call ends.** -/
theorem hides_iff_of_settled {whole : Prop} {during : Transcript} (h : Settled m whole during) :
    m.Hides during ↔ (∃ x ∈ during, x.Consented) ∧
      (¬ m.CanRefresh ∨ ¬ whole ∧ ∃ x ∈ during, x.Declined) := by
  cases h with
  | idle unchanged =>
    refine iff_of_false ?_ ?_
    · rintro ⟨later, x, earlier, rfl, consented, -⟩
      exact unchanged x (List.mem_append_right _ List.mem_cons_self) consented
    · rintro ⟨⟨x, mem, consented⟩, -⟩
      exact unchanged x mem consented
  | refreshed y before last refreshes unrefused =>
    refine iff_of_false ?_ ?_
    · -- whatever was carried out stands before the refresh
      rintro ⟨later, x, earlier, split, consented, quiet⟩
      rw [last] at split
      cases later with
      | nil =>
        obtain ⟨rfl, -⟩ := List.cons.inj split
        exact refreshes.not_isChange consented.isChange
      | cons z later =>
        obtain ⟨rfl, -⟩ := List.cons.inj split
        exact quiet y List.mem_cons_self refreshes
    · rintro ⟨-, mute | ⟨early, x, mem, declined⟩⟩
      · exact mute refreshes.canRefresh
      · rw [last] at mem
        rcases List.mem_cons.1 mem with rfl | mem
        · exact refreshes.not_isChange declined.isChange
        · exact unrefused early x mem declined
  | unable mute quiet =>
    rw [hides_iff_of_quiet quiet]
    exact ⟨fun consented => ⟨consented, .inl mute⟩, And.left⟩
  | cut early declined quiet =>
    rw [hides_iff_of_quiet quiet]
    exact ⟨fun consented => ⟨consented, .inr ⟨early, declined⟩⟩, And.left⟩

/-- What happened before a call and was no change makes no difference to how it ends. -/
theorem Settled.append {whole : Prop} {during before : Transcript} (h : Settled m whole during)
    (other : ∀ x ∈ before, ¬ x.IsChange ∧ ¬ m.Refreshes x) :
    Settled m whole (during ++ before) := by
  have quiet (h : ∀ x ∈ during, ¬ m.Refreshes x) : ∀ x ∈ during ++ before, ¬ m.Refreshes x := by
    intro x mem
    exact (List.mem_append.1 mem).elim (h x) fun mem => (other x mem).2
  cases h with
  | idle unchanged =>
    refine .idle ?_
    intro x mem
    rcases List.mem_append.1 mem with mem | mem
    · exact unchanged x mem
    · exact fun consented => (other x mem).1 consented.isChange
  | refreshed y middle last refreshes unrefused =>
    refine .refreshed y (middle ++ before) (by rw [last, List.cons_append]) refreshes ?_
    intro early x mem
    rcases List.mem_append.1 mem with mem | mem
    · exact unrefused early x mem
    · exact fun declined => (other x mem).1 declined.isChange
  | unable mute silent => exact .unable mute (quiet silent)
  | cut early declined silent =>
    obtain ⟨x, mem, declined⟩ := declined
    exact .cut early ⟨x, List.mem_append_left _ mem, declined⟩ (quiet silent)

end AccessModel

/-! ### Series of changes -/

namespace Program

variable {σ α β : Type} {view : σ → Transcript} {env : Environment} {c : RestClient}

/-- **A program that asks for one change after the other**, and stops at the first that is
declined. -/
structure Petitions (view : σ → Transcript) (c : RestClient) (env : Environment)
    (m : Program σ α) : Prop where
  asks : Leads (InvImage (ExtendsWithin Event.IsChange) view) env m
  unrefused : ∀ s a, (m env s).1 = .ok a →
    ExtendsWithin (fun x => ¬ x.Declined) (view s) (view (m env s).2)
  refused : ∀ s f, (m env s).1 = .error f → c.CanSend →
    ∃ x ∈ (view (m env s).2).since (view s), x.Declined
  mute : ¬ c.CanSend → ∀ s, view (m env s).2 = view s

namespace Petitions

theorem pure (a : α) : Petitions view c env (Pure.pure a : Program σ α) where
  asks := .pure a
  unrefused s _ _ := refl_of _ (view s)
  refused _ _ failed := nomatch failed
  mute _ _ := rfl

theorem bind {m : Program σ α} {k : α → Program σ β} (hm : Petitions view c env m)
    (hk : ∀ a, Petitions view c env (k a)) : Petitions view c env (m >>= k) where
  asks := .bind hm.asks fun a => (hk a).asks
  unrefused s b ended := by
    have run : (m >>= k) env s = (.ok b, ((m >>= k) env s).2) := Prod.ext ended rfl
    obtain ⟨a, s₁, first, second⟩ := exists_of_bind_eq_ok run
    have before := hm.unrefused s a (congrArg Prod.fst first)
    have after := (hk a).unrefused s₁ b (congrArg Prod.fst second)
    rw [first] at before
    rw [second] at after
    exact trans_of _ before after
  refused s f failed sends := by
    have grows : view s <:+ view (m env s).2 := (hm.asks s).grows
    have before := hm.refused s
    rw [bind_apply] at failed ⊢
    rcases run : m env s with ⟨f' | a, s₁⟩ <;> rw [run] at grows before failed
    · exact before f' rfl sends
    · obtain ⟨x, mem, declined⟩ := (hk a).refused s₁ f failed sends
      have whole := Transcript.since_trans grows ((hk a).asks s₁).grows
      refine ⟨x, ?_, declined⟩
      show x ∈ (view (k a env s₁).2).since (view s)
      rw [whole]
      exact List.mem_append_left _ mem
  mute unable s := by
    have first := hm.mute unable s
    rw [bind_apply]
    rcases run : m env s with ⟨f | a, s₁⟩ <;> rw [run] at first
    · exact first
    · exact ((hk a).mute unable s₁).trans first

end Petitions

end Program

open Program (Petitions)

variable {env : Environment} {α : Type}

/-- **Asking for a grant or a revocation.** -/
theorem RestClient.petitions_ask (c : RestClient) {ch : Change} (post : ch.method = "POST") :
    Petitions id c env (c.ask ch) where
  asks t := by
    show ExtendsWithin _ t (c.ask ch env t).2
    rw [c.ask_apply post]
    cases request : ch.requestOf c with
    | error f => exact refl_of _ t
    | ok r => exact Transcript.extendsWithin_cons t ⟨ch, r, _, post, ⟨c, request⟩, rfl, trivial⟩
  unrefused t u ended := by
    show ExtendsWithin _ t (c.ask ch env t).2
    rw [c.ask_apply post] at ended ⊢
    cases request : ch.requestOf c with
    | error f => exact refl_of _ t
    | ok r =>
      rw [request] at ended
      refine Transcript.extendsWithin_cons t ?_
      rintro ⟨ch', r', reply, -, -, same, declined⟩
      cases same
      exact declined (Reply.consent_eq_ok_iff.1 ended)
  refused t f failed sends := by
    obtain ⟨r, request⟩ := (RestClient.exists_requestOf_iff ch).2 sends
    rw [c.ask_apply post, request] at failed ⊢
    refine ⟨.exchanged r (env.respond t r), ?_, ch, r, _, post, ⟨c, request⟩, rfl,
      Reply.not_consents_of_consent failed⟩
    show _ ∈ (env.after t r).since t
    rw [env.since_after]
    exact List.mem_cons_self
  mute unable t := by
    rw [c.ask_apply post]
    cases request : ch.requestOf c with
    | error f => rfl
    | ok r => exact absurd ((RestClient.exists_requestOf_iff ch).1 ⟨r, request⟩) unable

namespace AccessAct

variable {c : RestClient}

theorem petitions_liftM {m : Session α} (h : Petitions id c env m) :
    Petitions AccessState.transcript c env (liftM m : AccessAct α) where
  asks s := h.asks s.transcript
  unrefused s a ended := h.unrefused s.transcript a ended
  refused s f failed sends := h.refused s.transcript f failed sends
  mute unable s := h.mute unable s.transcript

theorem petitions_record (f : Ledger → Ledger) :
    Petitions AccessState.transcript c env (record f) where
  asks s := refl_of _ s.transcript
  unrefused s _ _ := refl_of _ s.transcript
  refused _ _ failed := nomatch failed
  mute _ _ := rfl

end AccessAct

namespace AccessModel

variable (m : AccessModel) (p : Principal)

theorem petitions_issueGrant (e : EntityId) (actions : ActionSet) :
    Petitions AccessState.transcript m.admin env (m.issueGrant p e actions) := by
  rw [issueGrant_eq]
  exact .bind (AccessAct.petitions_liftM (m.admin.petitions_ask rfl)) fun _ =>
    AccessAct.petitions_record _

theorem petitions_issueGrants (plan : List (EntityId × ActionSet)) :
    Petitions AccessState.transcript m.admin env (m.issueGrants p plan) := by
  induction plan with
  | nil => exact .pure ()
  | cons entry rest ih =>
    obtain ⟨e, actions⟩ := entry
    rw [issueGrants_cons]
    exact .bind (m.petitions_issueGrant p e actions) fun _ => ih

theorem petitions_revokeEntities (es : List EntityId) :
    Petitions id m.admin env (m.revokeEntities p es) := by
  induction es with
  | nil => exact .pure ()
  | cons e rest ih =>
    rw [revokeEntities_cons]
    exact .bind (m.admin.petitions_ask rfl) fun _ => ih

/-- The revocations of a teardown are asked for whatever comes of each. -/
theorem leads_revokeGrants_within (gs : List Grant) (first : Option Fault) :
    Leads (InvImage (ExtendsWithin Event.IsChange) AccessState.transcript) env
      (m.revokeGrants gs first) :=
  m.leads_revokeGrants gs (fun _ _ => (m.admin.petitions_ask rfl).asks) first

/-- Listing privileges is no change, and refreshes nothing. -/
theorem leads_privileges_other :
    Leads (ExtendsWithin fun x => ¬ x.IsChange ∧ ¬ m.Refreshes x) env (m.privileges p) := by
  intro t
  unfold privileges RestClient.listPrivileges
  rw [RestClient.get_apply]
  generalize Route.path ["security", "authorization", p.kind.segment, p.name, "privileges"] = path
  cases sent : m.admin.request "GET" path .empty with
  | error f => exact refl_of _ t
  | ok r =>
    have get : r.method = "GET" := (RestClient.request_eq_ok sent).1
    have other : ¬ "GET" = "POST" := by decide
    refine Transcript.extendsWithin_cons t ⟨?_, ?_⟩
    · rintro ⟨ch, r', reply, post, asked, same, -⟩
      cases same
      rw [← Change.method_eq_of_askedBy asked, get] at post
      exact other post
    · intro refreshes
      rw [refreshes.post_empty.1] at get
      exact other get.symm

/-- **One refresh**, or none if it cannot be asked for. -/
theorem refresh_cases (refreshing : m.policy ≠ .manual) (env : Environment) (t : Transcript) :
    (∃ y, m.Refreshes y ∧ (m.refresh env t).2 = y :: t) ∨
      ¬ m.CanRefresh ∧ (m.refresh env t).2 = t :=
  (m.refreshTurn_refresh env t).once.imp_right fun ⟨unable, never⟩ =>
    ⟨unable.resolve_left refreshing, never⟩

/-! ### How calls end -/

/-- **A program whose runs end like calls that ask for changes.** -/
def Settles (env : Environment) (whole : Prop) (P : AccessAct α) : Prop :=
  ∀ s, s.transcript <:+ (P env s).2.transcript ∧
    Settled m whole ((P env s).2.transcript.since s.transcript)

variable {m p}

/-- After a refresh, or where there can be none. -/
theorem settled_of_refresh (refreshing : m.policy ≠ .manual) {whole : Prop} {t t₁ : Transcript}
    (asks : ExtendsWithin Event.IsChange t t₁)
    (unrefused : ¬ whole → ExtendsWithin (fun x => ¬ x.Declined) t t₁) :
    t <:+ (m.refresh env t₁).2 ∧ Settled m whole ((m.refresh env t₁).2.since t) := by
  obtain ⟨⟨during, rfl⟩, asks⟩ := asks
  rw [Transcript.since_append] at asks
  rcases m.refresh_cases refreshing env (during ++ t) with ⟨y, refreshes, once⟩ | ⟨mute, never⟩
  · rw [once, ← List.cons_append, Transcript.since_append]
    refine ⟨List.suffix_append _ t, .refreshed y during rfl refreshes ?_⟩
    intro early
    exact Transcript.extendsWithin_append.1 (unrefused early)
  · rw [never, Transcript.since_append]
    refine ⟨List.suffix_append during t, .unable mute ?_⟩
    exact fun x mem refreshes => refreshes.not_isChange (asks x mem)

/-- **A series of changes with a refresh after it.** -/
theorem settles_of_petitions (refreshing : m.policy ≠ .manual) {β : Type} {P : AccessAct α}
    {k : α → AccessAct β} (h : Petitions AccessState.transcript m.admin env P)
    (last : ∀ a s, (k a env s).2.transcript = (m.refresh env s.transcript).2) :
    m.Settles env False (P >>= k) := by
  intro s
  have asks : ExtendsWithin _ s.transcript (P env s).2.transcript := h.asks s
  have unrefused := h.unrefused s
  have refused := h.refused s
  have mute := h.mute
  rw [Program.bind_apply]
  rcases run : P env s with ⟨f | a, s₁⟩ <;> rw [run] at asks unrefused refused
  · refine ⟨asks.grows, ?_⟩
    by_cases sends : m.admin.CanSend
    · refine .cut not_false (refused f rfl sends) ?_
      exact fun x mem refreshes => refreshes.not_isChange (asks.within x mem)
    · have same : s₁.transcript = s.transcript := by
        have unmoved := mute sends s
        rwa [run] at unmoved
      refine .idle ?_
      rw [same, Transcript.since_self]
      exact List.forall_mem_nil _
  · simp only
    rw [last]
    exact settled_of_refresh refreshing asks fun _ => unrefused a rfl

/-- What comes after something that is no change. -/
theorem Settles.after {β : Type} {whole : Prop} {P : AccessAct α} {k : α → AccessAct β}
    (h : Leads (InvImage (ExtendsWithin fun x => ¬ x.IsChange ∧ ¬ m.Refreshes x)
      AccessState.transcript) env P)
    (later : ∀ a, m.Settles env whole (k a)) : m.Settles env whole (P >>= k) := by
  intro s
  have before : ExtendsWithin _ s.transcript (P env s).2.transcript := h s
  rw [Program.bind_apply]
  rcases run : P env s with ⟨f | a, s₁⟩ <;> rw [run] at before
  · refine ⟨before.grows, .idle ?_⟩
    exact fun x mem consented => (before.within x mem).1 consented.isChange
  · obtain ⟨grows, settled⟩ := later a s₁
    refine ⟨before.grows.trans grows, ?_⟩
    rw [Transcript.since_trans before.grows grows]
    exact settled.append before.within

theorem settles_pure (whole : Prop) (a : α) : m.Settles env whole (pure a) := by
  intro s
  refine ⟨List.suffix_refl _, .idle ?_⟩
  rw [Program.pure_apply, Transcript.since_self]
  exact List.forall_mem_nil _

section

variable (refreshing : m.policy ≠ .manual)

include refreshing

theorem settles_grant (e : EntityId) (actions : List Action) :
    m.Settles env False (m.grant p e actions) :=
  settles_of_petitions refreshing (m.petitions_issueGrant p e _) fun _ _ => rfl

theorem settles_grantAll (plan : PrivilegePlan) : m.Settles env False (m.grantAll p plan) := by
  refine settles_of_petitions refreshing (m.petitions_issueGrants p plan.toList) ?_
  intro _ s
  rw [Program.bind_apply, AccessAct.liftM_apply]
  cases (m.refresh env s.transcript).1 <;> rfl

theorem settles_grantIfMissing (e : EntityId) (a : Action) :
    m.Settles env False (m.grantIfMissing p e a) := by
  refine .after (fun s => refl_of _ s.transcript) ?_
  intro l
  split
  · exact settles_pure False ()
  · refine .after (AccessAct.leads_liftM (m.leads_privileges_other p)) ?_
    intro listing
    split
    · exact settles_pure False ()
    · exact settles_grant refreshing e [a]

theorem settles_revoke (e : Option EntityId) (actions : Option (List Action)) :
    m.Settles env False (m.revoke p e actions) := by
  cases e with
  | some e =>
    rw [revoke_some_eq]
    exact settles_of_petitions refreshing (.bind
      (AccessAct.petitions_liftM (m.admin.petitions_ask rfl)) fun _ =>
        AccessAct.petitions_record _) fun _ _ => rfl
  | none =>
    have parts : m.revoke p none actions = (liftM (m.privileges p) >>= fun listing =>
        ((liftM (m.revokeEntities p (entitiesOf listing)) >>= fun _ =>
          AccessAct.record fun l => l.recordRevokeAll p) >>= fun _ => liftM m.refresh)) := by
      simp only [bind_assoc]
      rfl
    rw [parts]
    refine .after (AccessAct.leads_liftM (m.leads_privileges_other p)) ?_
    intro listing
    exact settles_of_petitions refreshing (.bind
      (AccessAct.petitions_liftM (m.petitions_revokeEntities p _)) fun _ =>
        AccessAct.petitions_record _) fun _ _ => rfl

/-- A teardown comes to its refresh whatever was declined. -/
theorem settles_teardown : m.Settles env True m.teardown := by
  intro s
  have asks : ExtendsWithin _ s.transcript
      (m.revokeGrants s.ledger.grants none env s).2.transcript :=
    m.leads_revokeGrants_within s.ledger.grants none s
  obtain ⟨first, s₁, series⟩ := m.exists_revokeGrants_eq_ok env s.ledger.grants none s
  rw [series] at asks
  rw [teardown_apply series]
  exact settled_of_refresh refreshing asks fun early => absurd trivial early

end

end AccessModel

/-! ### Calls -/

/-- **A call of the access model that asks for changes.** -/
inductive AccessOperation where
  | call (made : AccessCall)
  /-- Everything that was granted is revoked. -/
  | teardown

namespace AccessOperation

/-- What a call does. -/
def run (m : AccessModel) : AccessOperation → AccessAct Unit
  | .call made => made.run m
  | .teardown => m.teardown

theorem settles_run {m : AccessModel} (refreshing : m.policy ≠ .manual)
    (op : AccessOperation) : m.Settles env (op = .teardown) (op.run m) := by
  cases op with
  | teardown =>
    rw [eq_self]
    exact AccessModel.settles_teardown refreshing
  | call made =>
    rw [eq_false (p := AccessOperation.call made = .teardown) nofun]
    cases made with
    | grant p e actions => exact AccessModel.settles_grant refreshing e actions
    | grantIfMissing p e a => exact AccessModel.settles_grantIfMissing refreshing e a
    | revoke p e actions => exact AccessModel.settles_revoke refreshing e actions
    | grantAll p plan =>
      intro s
      have settles : m.Settles env False (m.grantAll p plan) :=
        AccessModel.settles_grantAll refreshing plan
      have same : ((AccessCall.grantAll p plan).run m env s).2 = (m.grantAll p plan env s).2 := by
        show ((m.grantAll p plan >>= fun _ => pure ()) env s).2 = _
        rw [Program.bind_apply]
        rcases m.grantAll p plan env s with ⟨f | keys, s₁⟩ <;> rfl
      show _ <:+ ((AccessCall.grantAll p plan).run m env s).2.transcript ∧ _
      unfold run
      rw [same]
      exact settles s

/-- **When a call leaves a change hidden.**  It carried something out, and could not have anything
refreshed, or stopped at a change that was declined; a teardown does not stop. -/
theorem hides_iff (m : AccessModel) (refreshing : m.policy ≠ .manual) (env : Environment)
    (op : AccessOperation) (s : AccessState) :
    let during := (op.run m env s).2.transcript.since s.transcript
    m.Hides during ↔ (∃ x ∈ during, x.Consented) ∧
      (¬ m.CanRefresh ∨ op ≠ .teardown ∧ ∃ x ∈ during, x.Declined) := by
  intro during
  exact AccessModel.hides_iff_of_settled (settles_run refreshing op s).2

end AccessOperation

/-! ### A plan that is cut short -/

/-- An access model that has the cache forgotten after every change. -/
def AccessModel.invalidating : AccessModel := ⟨.local, .invalidateOnMutation, "invalidate"⟩

/-- A platform that accepts what it is asked first, and nothing after that. -/
def Environment.onceOnly : Environment :=
  .replying fun t _ => if t.isEmpty then .answered ⟨200, ""⟩ else .answered ⟨403, "no"⟩

theorem Environment.onceOnly_accepts (g : GrantRequest) :
    ∃ r, (Change.grant g).AskedBy r ∧ RestClient.local.ask (.grant g) .onceOnly [] =
      (.ok (), [.exchanged r (.answered ⟨200, ""⟩)]) := by
  obtain ⟨r, request⟩ := (RestClient.exists_requestOf_iff (.grant g)).2 RestClient.canSend_local
  refine ⟨r, ⟨_, request⟩, ?_⟩
  rw [RestClient.ask_apply _ rfl, request]
  rfl

theorem Environment.onceOnly_declines (g : GrantRequest) (x : Event) :
    ∃ r f, (Change.grant g).AskedBy r ∧ RestClient.local.ask (.grant g) .onceOnly [x] =
      (.error f, [.exchanged r (.answered ⟨403, "no"⟩), x]) := by
  obtain ⟨r, request⟩ := (RestClient.exists_requestOf_iff (.grant g)).2 RestClient.canSend_local
  refine ⟨r, .ofResponse 403 "no", ⟨_, request⟩, ?_⟩
  rw [RestClient.ask_apply _ rfl, request]
  rfl

/-- Two namespaces that bob shall read. -/
def AccessCall.twoGrants : AccessCall :=
  .grantAll (.user "bob") (PrivilegePlan.ofSteps [(.space "a", [.read]), (.space "b", [.read])])

/-- What happens then: the second grant is declined, and nothing else is asked for. -/
theorem AccessCall.transcript_twoGrants :
    ∃ g r g' r', (Change.grant g).AskedBy r ∧ (Change.grant g').AskedBy r' ∧
      (AccessCall.twoGrants.run .invalidating .onceOnly ⟨[], Ledger.empty⟩).2.transcript =
        [.exchanged r' (.answered ⟨403, "no"⟩), .exchanged r (.answered ⟨200, ""⟩)] := by
  obtain ⟨r, asked, accepted⟩ :=
    Environment.onceOnly_accepts ⟨.space "a", .user "bob", .ofList [.read]⟩
  obtain ⟨r', f, asked', declined⟩ :=
    Environment.onceOnly_declines ⟨.space "b", .user "bob", .ofList [.read]⟩
      (.exchanged r (.answered ⟨200, ""⟩))
  refine ⟨_, r, _, r', asked, asked', ?_⟩
  have planned : (PrivilegePlan.ofSteps
      [(EntityId.space "a", [Action.read]), (.space "b", [.read])]).toList =
        [(.space "a", .ofList [.read]), (.space "b", .ofList [.read])] := by
    decide
  have client : AccessModel.invalidating.admin = .local := rfl
  unfold twoGrants run AccessModel.grantAll
  simp only [planned, client, AccessModel.issueGrants_cons, AccessModel.issueGrant_eq,
    Program.bind_apply, AccessAct.liftM_apply, AccessAct.record_apply, accepted, declined]

/-- **A plan that is cut short leaves its first grant hidden.** -/
theorem AccessModel.grantAll_hides :
    AccessModel.invalidating.policy = .invalidateOnMutation ∧
      AccessModel.invalidating.CanRefresh ∧ AccessModel.invalidating.Hides
        (AccessCall.twoGrants.run .invalidating .onceOnly ⟨[], Ledger.empty⟩).2.transcript := by
  obtain ⟨g, r, g', r', asked, asked', happened⟩ := AccessCall.transcript_twoGrants
  refine ⟨rfl, ?_, ?_⟩
  · intro _
    exact ⟨_, rfl⟩
  · rw [happened]
    have consented : Reply.Consents (.answered ⟨200, ""⟩) := by
      decide
    refine ⟨[_], _, [], rfl, ⟨.grant g, r, _, rfl, asked, rfl, consented⟩, ?_⟩
    intro y mem refreshes
    rw [List.mem_singleton.1 mem] at refreshes
    exact refreshes.not_askedBy _ asked'

/-- The same platform hides nothing in a teardown. -/
theorem AccessOperation.hides_iff_teardown :
    let s : AccessState :=
      ⟨[], Ledger.empty.recordGrant (.user "bob") (.space "a") (.ofList [.read])⟩
    AccessModel.invalidating.policy ≠ .manual ∧ ¬ AccessModel.invalidating.Hides
      ((AccessOperation.teardown.run .invalidating .onceOnly s).2.transcript.since
        s.transcript) := by
  intro s
  have refreshing : AccessModel.invalidating.policy ≠ .manual := nofun
  refine ⟨refreshing, ?_⟩
  intro hidden
  obtain ⟨-, mute | ⟨other, -⟩⟩ :=
    (AccessOperation.hides_iff .invalidating refreshing .onceOnly .teardown s).1 hidden
  · refine mute ?_
    intro _
    exact ⟨_, rfl⟩
  · exact other rfl

end AccessHarness
