import AccessHarness.Proofs.Access.StorePlatform
import AccessHarness.Proofs.Scenario.Series

/-!
# Grants that are remembered

A teardown takes back what stands in the ledger, so a grant that was carried out and is not written
there is never taken back.  This file is about the grants that the platform accepted: which of them
are in the ledger when a call returns, however it returns.

* `Event.AsksGrant` — a grant was asked for, and answered.
* `Ledger.Records` — one of the grants a teardown takes back covers it.
* `AccessAct.Remembers` — what an operation makes of every grant that it asks for.
* `AccessCall.remembers_iff` — an accepted grant is remembered exactly if its answer can be read,
  or if nothing of it was new.
* `AccessModel.grant_forgotten` — it can be forgotten.

### What is load-bearing

**Recording follows reading.**  A grant is written down after its answer was decoded, and nothing
is ever read of what was decoded.  An answer that says the grant was carried out, and says it in
words that are no document, ends the call before the ledger is touched.  What comes after a grant,
a refresh that fails or a later grant that is declined, takes nothing back.

**An entry of a plan is for one entity.**  No two entries of a plan are for the same one, so the
grant that ended a call was not also recorded for another entry.
-/

namespace AccessHarness

open Program (Leads)
open Ranked (Before)
open Transcript (ExtendsWithin)

/-- **A grant was asked for**, and answered in this way. -/
def Event.AsksGrant (g : GrantRequest) (reply : Reply) (x : Event) : Prop :=
  ∃ r, (Change.grant g).AskedBy r ∧ x = .exchanged r reply

theorem Event.AsksGrant.isChange {g : GrantRequest} {reply : Reply} {x : Event}
    (h : x.AsksGrant g reply) : x.IsChange := by
  obtain ⟨r, asked, same⟩ := h
  exact ⟨.grant g, r, reply, rfl, asked, same, trivial⟩

namespace Reply

/-- A success is consent exactly if it can be read. -/
theorem consents_answered_iff {response : Response}
    (success : Status.isSuccess response.status = true) :
    (answered response).Consents ↔
      ∃ document, decodeBody Json.Decoder.any response.body = .ok document := by
  have taken : (answered response).outcome = .ok response := if_pos success
  unfold Consents
  simp only [← read_eq_ok_iff, read, taken, Except.bind]

end Reply

/-! ### What is recorded -/

namespace Ledger

variable {l : Ledger} {p : Principal} {g : GrantRequest}

/-- **A grant that a teardown takes back**: it is covered by one of those that are recorded. -/
def Records (l : Ledger) (g : GrantRequest) : Prop :=
  ∃ recorded ∈ l.grants, recorded.principal = g.principal ∧ recorded.entity = g.entity ∧
    ∀ a, g.actions.contains a = true → recorded.actions.contains a = true

theorem Records.holds (h : l.Records g) {a : Action} (granted : g.actions.contains a = true) :
    l.holds g.principal g.entity a = true := by
  obtain ⟨recorded, listed, principal, entity, covers⟩ := h
  rw [mem_grants_iff, principal, entity] at listed
  rw [holds_eq, actionsOn_eq, listed]
  exact covers a granted

/-- Every grant of a list is recorded with it. -/
theorem records_recordAll {given : List (EntityId × ActionSet)} {x : EntityId × ActionSet}
    (mem : x ∈ given) (l : Ledger) : (l.recordAll p given).Records ⟨x.1, p, x.2⟩ := by
  rw [recordAll_eq l p (List.ne_nil_of_mem mem)]
  let held := Holdings.addAll ((l.byPrincipal.find? p).getD OrderedMap.empty) given
  have known : OrderedMap.contains held x.1 = true :=
    (Holdings.contains_addAll _ given x.1).2 (.inl ⟨x, mem, rfl⟩)
  obtain ⟨actions, found⟩ := Option.isSome_iff_exists.1 known
  refine ⟨⟨p, x.1, actions⟩, ?_, rfl, rfl, ?_⟩
  · rw [mem_grants_iff, written?, OrderedMap.find?_alter_self, Option.bind_some]
    exact found
  · intro a granted
    have allowed : held.allows x.1 a = true :=
      (Holdings.allows_addAll _ given x.1 a).2 (.inl ⟨x, mem, rfl, granted⟩)
    rw [Holdings.allows, found] at allowed
    exact allowed

/-- What a list does not name, it leaves as it was. -/
theorem written?_recordAll_of_not_mem {given : List (EntityId × ActionSet)} {e : EntityId}
    (unnamed : e ∉ given.map Prod.fst) (l : Ledger) :
    (l.recordAll p given).written? p e = l.written? p e := by
  induction given generalizing l with
  | nil => rfl
  | cons x rest ih =>
    rw [List.map_cons, List.mem_cons, not_or] at unnamed
    rw [recordAll_cons, ih unnamed.2, written?_recordGrant, if_neg fun same => unnamed.1 same.2]

end Ledger

/-! ### Operations that remember -/

/-- **Nothing was granted or revoked meanwhile**, and nothing was written. -/
structure AccessState.Quiet (s s' : AccessState) : Prop where
  within : ExtendsWithin (fun x => ¬ x.IsChange) s.transcript s'.transcript
  ledger : s'.ledger = s.ledger

instance : IsPreorder AccessState AccessState.Quiet where
  refl s := ⟨refl_of _ s.transcript, rfl⟩
  trans _ _ _ h h' := ⟨trans_of _ h.within h'.within, h'.ledger.trans h.ledger⟩

open AccessState (Quiet)

namespace AccessAct

variable {α β : Type} {env : Environment}

theorem quiet_liftM {m : Session α} (h : Leads (ExtendsWithin fun x => ¬ x.IsChange) env m) :
    Leads Quiet env (liftM m : AccessAct α) := fun s => ⟨h s.transcript, rfl⟩

/-- **What a run makes of the grants that it asks for.** -/
structure Remembered (s : AccessState) (ran : Outcome α × AccessState) : Prop where
  grows : s.transcript <:+ ran.2.transcript
  /-- Those that were consented to are recorded, however it ended. -/
  recorded : ∀ x ∈ ran.2.transcript.since s.transcript, ∀ {g reply}, x.AsksGrant g reply →
    reply.Consents → ran.2.ledger.Records g
  /-- Any other is the end of it, and nothing of it is recorded. -/
  lost : ∀ x ∈ ran.2.transcript.since s.transcript, ∀ {g reply}, x.AsksGrant g reply →
    ¬ reply.Consents → (∃ f, ran.1 = .error f) ∧ ran.2.transcript.head? = some x ∧
      ran.2.ledger.written? g.principal g.entity = s.ledger.written? g.principal g.entity

namespace Remembered

variable {s s₁ : AccessState} {ran : Outcome α × AccessState}

/-- Nothing was asked for. -/
theorem of_quiet (quiet : Quiet s ran.2) : Remembered s ran where
  grows := quiet.within.grows
  recorded x mem _ _ asks _ := absurd asks.isChange (quiet.within.within x mem)
  lost x mem _ _ asks _ := absurd asks.isChange (quiet.within.within x mem)

/-- Nothing was asked for before that. -/
theorem after (quiet : Quiet s s₁) (h : Remembered s₁ ran) : Remembered s ran := by
  have later {x : Event} {g : GrantRequest} {reply : Reply} (asks : x.AsksGrant g reply)
      (mem : x ∈ ran.2.transcript.since s.transcript) :
      x ∈ ran.2.transcript.since s₁.transcript := by
    rw [Transcript.since_trans quiet.within.grows h.grows, List.mem_append] at mem
    exact mem.resolve_right fun earlier => quiet.within.within x earlier asks.isChange
  refine ⟨quiet.within.grows.trans h.grows, ?_, ?_⟩
  · intro x mem g reply asks
    exact h.recorded x (later asks mem) asks
  · intro x mem g reply asks declines
    rw [← quiet.ledger]
    exact h.lost x (later asks mem) asks declines

/-- Nothing was asked for after that: a grant that was lost would have been the end. -/
theorem andThen {a : β} (h : Remembered s ((.ok a, s₁) : Outcome β × AccessState))
    (quiet : Quiet s₁ ran.2) : Remembered s ran := by
  have earlier {x : Event} {g : GrantRequest} {reply : Reply} (asks : x.AsksGrant g reply)
      (mem : x ∈ ran.2.transcript.since s.transcript) :
      x ∈ s₁.transcript.since s.transcript := by
    rw [Transcript.since_trans h.grows quiet.within.grows, List.mem_append] at mem
    exact mem.resolve_left fun later => quiet.within.within x later asks.isChange
  refine ⟨h.grows.trans quiet.within.grows, ?_, ?_⟩
  · intro x mem g reply asks consents
    rw [quiet.ledger]
    exact h.recorded x (earlier asks mem) asks consents
  · intro x mem g reply asks declines
    obtain ⟨⟨f, failed⟩, -⟩ := h.lost x (earlier asks mem) asks declines
    cases failed

/-- What the run would have returned does not matter where it failed. -/
theorem of_error {f : Fault} (h : Remembered s ((.error f, s₁) : Outcome β × AccessState)) :
    Remembered s ((.error f, s₁) : Outcome α × AccessState) := by
  refine ⟨h.grows, h.recorded, ?_⟩
  intro x mem g reply asks declines
  exact ⟨⟨f, rfl⟩, (h.lost x mem asks declines).2⟩

end Remembered

/-- **An operation that remembers** what it was granted, from any state. -/
def Remembers (env : Environment) (m : AccessAct α) : Prop := ∀ s, Remembered s (m env s)

namespace Remembers

theorem of_quiet {m : AccessAct α} (h : Leads Quiet env m) : Remembers env m := fun s =>
  .of_quiet (h s)

/-- Something quiet may come before. -/
theorem after {m : AccessAct α} {k : α → AccessAct β} (hm : Leads Quiet env m)
    (hk : ∀ a, Remembers env (k a)) : Remembers env (m >>= k) := by
  intro s
  rw [Program.bind_apply]
  rcases run : m env s with ⟨f | a, s₁⟩
  · exact .of_quiet (hm.of_run run)
  · exact .after (hm.of_run run) (hk a s₁)

/-- Something quiet may follow. -/
theorem andThen {m : AccessAct α} {k : α → AccessAct β} (hm : Remembers env m)
    (hk : ∀ a, Leads Quiet env (k a)) : Remembers env (m >>= k) := by
  intro s
  rw [Program.bind_apply]
  have first := hm s
  rcases run : m env s with ⟨f | a, s₁⟩ <;> rw [run] at first
  · exact first.of_error
  · exact first.andThen (hk a s₁)

end Remembers

end AccessAct

open AccessAct (Remembered Remembers)

namespace AccessModel

variable (m : AccessModel) (p : Principal) {env : Environment}

theorem quiet_refresh : Leads Quiet env (liftM m.refresh : AccessAct Unit) :=
  AccessAct.quiet_liftM fun t =>
    (m.leads_refresh_within t).mono fun _ refreshes => refreshes.not_isChange

/-- What happened while requests were sent in a row is these requests, with their answers. -/
private theorem exists_of_mem_since {done : List (EntityId × ActionSet)} {requests : List Request}
    (sent : List.Forall₂ (fun (x : EntityId × ActionSet) r =>
      (Change.grant ⟨x.1, p, x.2⟩).requestOf m.admin = .ok r) done requests) {t : Transcript}
    {x : Event} (mem : x ∈ (env.afterAll t requests).since t) :
    ∃ y ∈ done, ∃ r reply, (Change.grant ⟨y.1, p, y.2⟩).requestOf m.admin = .ok r ∧
      x = .exchanged r reply ∧ reply ∈ env.answers t requests := by
  rw [env.afterAll_eq, Transcript.since_append, List.mem_reverse] at mem
  induction sent generalizing t with
  | nil => cases mem
  | cons request _ ih =>
    rw [Environment.answers_cons, List.zipWith_cons_cons, List.mem_cons] at mem
    rw [Environment.answers_cons]
    rcases mem with rfl | later
    · exact ⟨_, List.mem_cons_self, _, _, request, rfl, List.mem_cons_self⟩
    · obtain ⟨y, planned, r, reply, request, same, answered⟩ := ih later
      exact ⟨y, List.mem_cons_of_mem _ planned, r, reply, request, same,
        List.mem_cons_of_mem _ answered⟩

/-- The request of a grant asks for no other grant. -/
private theorem eq_of_asks {g g' : GrantRequest} {r : Request} {reply reply' : Reply}
    (request : (Change.grant g).requestOf m.admin = .ok r)
    (asks : (Event.exchanged r reply).AsksGrant g' reply') : g' = g ∧ reply' = reply := by
  obtain ⟨r', asked, same⟩ := asks
  cases same
  have post : r.method = "POST" := Change.method_eq_of_askedBy asked
  exact ⟨Change.grant.inj (Change.eq_of_askedBy asked ⟨m.admin, request⟩ post), rfl⟩

/-- **A grant that comes to nothing is the end of it**, if its entity had no turn before. -/
theorem remembered_of_grantFails {x : EntityId × ActionSet} {f : Fault} {s s₁ s' : AccessState}
    (h : Remembered s ((.ok (), s₁) : Outcome Unit × AccessState))
    (fails : m.GrantFails p env x s₁ f s')
    (fresh : s₁.ledger.written? p x.1 = s.ledger.written? p x.1) :
    Remembered s ((.error f, s') : Outcome Unit × AccessState) := by
  cases fails with
  | unsent mute => exact h.andThen (refl_of Quiet s₁)
  | declined r request answer =>
    have suffix := env.suffix_after s₁.transcript r
    have since : (env.after s₁.transcript r).since s.transcript =
        .exchanged r (env.respond s₁.transcript r) :: s₁.transcript.since s.transcript := by
      rw [Transcript.since_trans h.grows suffix, env.since_after, List.singleton_append]
    refine ⟨h.grows.trans suffix, ?_, ?_⟩
    · intro y mem g reply asks accepts
      rcases List.mem_cons.1 (since ▸ mem) with rfl | earlier
      · obtain ⟨-, rfl⟩ := m.eq_of_asks request asks
        exact absurd accepts (Reply.not_consents_of_consent answer)
      · exact h.recorded y earlier asks accepts
    · intro y mem g reply asks declines
      rcases List.mem_cons.1 (since ▸ mem) with rfl | earlier
      · obtain ⟨rfl, -⟩ := m.eq_of_asks request asks
        exact ⟨⟨f, rfl⟩, rfl, fresh⟩
      · obtain ⟨⟨f', failed⟩, -⟩ := h.lost y earlier asks declines
        cases failed

/-- **Grants for different entities are remembered**, up to the one that comes to nothing. -/
theorem remembers_issueGrants {given : List (EntityId × ActionSet)}
    (distinct : (given.map Prod.fst).Nodup) : Remembers env (m.issueGrants p given) := by
  intro s
  obtain ⟨done, rest, requests, rfl, sent, consents, ended⟩ := m.exists_issueGrants p env given s
  let reached : AccessState :=
    ⟨env.afterAll s.transcript requests, s.ledger.recordAll p done⟩
  have granted {x : Event} (mem : x ∈ reached.transcript.since s.transcript)
      {g : GrantRequest} {reply : Reply} (asks : x.AsksGrant g reply) :
      reply.Consents ∧ reached.ledger.Records g := by
    obtain ⟨y, planned, r, reply', request, rfl, answered⟩ := m.exists_of_mem_since p sent mem
    obtain ⟨rfl, rfl⟩ := m.eq_of_asks request asks
    exact ⟨consents _ answered, Ledger.records_recordAll planned s.ledger⟩
  have remembered : Remembered s ((.ok (), reached) : Outcome Unit × AccessState) := by
    refine ⟨?_, ?_, ?_⟩
    · show s.transcript <:+ env.afterAll s.transcript requests
      rw [env.afterAll_eq]
      exact List.suffix_append _ _
    · exact fun x mem g reply asks _ => (granted mem asks).2
    · exact fun x mem g reply asks declines => absurd (granted mem asks).1 declines
  cases rest with
  | nil =>
    rw [ended]
    exact remembered
  | cons x rest =>
    obtain ⟨f, s', fails, run⟩ := ended
    rw [List.map_append, List.map_cons, List.nodup_middle, List.nodup_cons, List.mem_append,
      not_or] at distinct
    rw [run]
    exact m.remembered_of_grantFails p remembered fails
      (Ledger.written?_recordAll_of_not_mem distinct.1.1 s.ledger)

theorem remembers_grant (e : EntityId) (actions : List Action) :
    Remembers env (m.grant p e actions) := by
  have one : m.issueGrants p [(e, ActionSet.ofList actions)] =
      m.issueGrant p e (ActionSet.ofList actions) := by
    rw [issueGrants_cons]
    exact bind_pure_unit
  have issued : Remembers env (m.issueGrant p e (ActionSet.ofList actions)) :=
    one ▸ m.remembers_issueGrants p (List.nodup_singleton e)
  exact issued.andThen fun _ => m.quiet_refresh

theorem remembers_grantAll (plan : PrivilegePlan) : Remembers env (m.grantAll p plan) := by
  have distinct : (plan.toList.map Prod.fst).Nodup := by
    rw [List.Nodup, List.pairwise_map]
    exact plan.entries.increasing.imp Before.ne
  exact (m.remembers_issueGrants p distinct).andThen fun _ => .bind m.quiet_refresh fun _ => .pure _

theorem remembers_grantIfMissing (e : EntityId) (a : Action) :
    Remembers env (m.grantIfMissing p e a) := by
  refine .after (fun s => refl_of Quiet s) ?_
  intro l
  split
  · exact .of_quiet (.pure ())
  · refine .after (AccessAct.quiet_liftM fun t => ?_) ?_
    · exact (m.leads_privileges_other p t).mono fun _ other => other.1
    · intro listing
      split
      · exact .of_quiet (.pure ())
      · exact m.remembers_grant p e [a]

end AccessModel

namespace AccessCall

/-- Whether a call may ask for grants. -/
def mayGrant : AccessCall → Bool
  | .revoke .. => false
  | _ => true

theorem remembers_run (m : AccessModel) {call : AccessCall} (grants : call.mayGrant = true)
    (env : Environment) : Remembers env (call.run m) := by
  cases call with
  | grant p e actions => exact m.remembers_grant p e actions
  | grantAll p plan => exact (m.remembers_grantAll p plan).andThen fun _ => .pure ()
  | grantIfMissing p e a => exact m.remembers_grantIfMissing p e a
  | revoke p e actions => cases grants

/-- **Which of the accepted grants are remembered.**  Of a grant that was answered with a success
all actions are held when the call returns, whether it fails or not, exactly if the answer can be
read or all of them were held before.  In the first case it stands among what a teardown takes
back.  Where the answer cannot be read, it is the last thing that happened, the call fails, and
nothing was written about that entity. -/
theorem remembers_iff (m : AccessModel) {call : AccessCall} (grants : call.mayGrant = true)
    (env : Environment) (s : AccessState) {g : GrantRequest} {r : Request} {response : Response}
    (sent : Event.exchanged r (.answered response) ∈
      (call.run m env s).2.transcript.since s.transcript)
    (asked : (Change.grant g).AskedBy r) (accepted : Status.isSuccess response.status = true) :
    let ran := call.run m env s
    let readable := ∃ document, decodeBody Json.Decoder.any response.body = .ok document
    ((∀ a, g.actions.contains a = true → ran.2.ledger.holds g.principal g.entity a = true) ↔
      readable ∨ ∀ a, g.actions.contains a = true → s.ledger.holds g.principal g.entity a = true) ∧
    (readable → ran.2.ledger.Records g) ∧
    (¬ readable → (∃ f, ran.1 = .error f) ∧
      ran.2.transcript.head? = some (.exchanged r (.answered response)) ∧
      ran.2.ledger.written? g.principal g.entity = s.ledger.written? g.principal g.entity) := by
  intro ran readable
  have remembered : Remembered s ran := remembers_run m grants env s
  have asks : (Event.exchanged r (.answered response)).AsksGrant g (.answered response) :=
    ⟨r, asked, rfl⟩
  have recorded : readable → ran.2.ledger.Records g := fun reads =>
    remembered.recorded _ sent asks ((Reply.consents_answered_iff accepted).2 reads)
  have lost := fun unread : ¬ readable =>
    remembered.lost _ sent asks (mt (Reply.consents_answered_iff accepted).1 unread)
  refine ⟨?_, recorded, lost⟩
  by_cases reads : readable
  · exact iff_of_true (fun a granted => (recorded reads).holds granted) (.inl reads)
  · have same (a : Action) : ran.2.ledger.holds g.principal g.entity a =
        s.ledger.holds g.principal g.entity a := by
      rw [Ledger.holds_eq, Ledger.holds_eq, Ledger.actionsOn_eq, Ledger.actionsOn_eq,
        (lost reads).2.2]
    simp only [same, reads, false_or]

end AccessCall

/-! ### One grant -/

/-- A platform that answers every request with a success, in the same words. -/
def Environment.answering (text : String) : Environment :=
  .replying fun _ _ => .answered ⟨200, text⟩

/-- Bob shall read a namespace. -/
def AccessCall.oneGrant : AccessCall := .grant (.user "bob") (.space "a") [.read]

/-- Asked for where nothing is refreshed, it is one request, recorded with consent only. -/
private theorem AccessCall.run_oneGrant (text : String) :
    ∃ r, (Change.grant ⟨.space "a", .user "bob", .ofList [.read]⟩).AskedBy r ∧
      AccessCall.oneGrant.run .local (.answering text) ⟨[], Ledger.empty⟩ =
        ((Reply.answered ⟨200, text⟩).consent, ⟨[.exchanged r (.answered ⟨200, text⟩)],
          match (Reply.answered ⟨200, text⟩).consent with
          | .ok () => Ledger.empty.recordGrant (.user "bob") (.space "a") (.ofList [.read])
          | .error _ => Ledger.empty⟩) := by
  obtain ⟨r, request⟩ := (RestClient.exists_requestOf_iff
    (.grant ⟨.space "a", .user "bob", .ofList [.read]⟩)).2 RestClient.canSend_local
  refine ⟨r, ⟨_, request⟩, ?_⟩
  show AccessModel.local.grant (.user "bob") (.space "a") [.read] _ _ = _
  have client : AccessModel.local.admin = .local := rfl
  unfold AccessModel.grant
  rw [Program.bind_apply, AccessModel.issueGrant_eq, Program.bind_apply, AccessAct.liftM_apply,
    client, RestClient.ask_apply _ rfl, request]
  have answer : (Environment.answering text).respond [] r = .answered ⟨200, text⟩ := rfl
  simp only [answer, Environment.after]
  cases (Reply.answered ⟨200, text⟩).consent <;> rfl

/-- A grant that was answered with nothing is remembered. -/
theorem AccessCall.remembers_iff_blank :
    let call := AccessCall.oneGrant
    let g : GrantRequest := ⟨.space "a", .user "bob", .ofList [.read]⟩
    let ran := call.run .local (.answering "") ⟨[], Ledger.empty⟩
    ∃ r, (call.mayGrant = true ∧
      Event.exchanged r (.answered ⟨200, ""⟩) ∈ ran.2.transcript.since [] ∧
      (Change.grant g).AskedBy r ∧ Status.isSuccess 200 = true) ∧
      ran.2.ledger.holds (.user "bob") (.space "a") .read = true ∧ ran.2.ledger.Records g := by
  intro call g ran
  obtain ⟨r, asked, run⟩ := AccessCall.run_oneGrant ""
  have sent : Event.exchanged r (.answered ⟨200, ""⟩) ∈ ran.2.transcript.since [] := by
    rw [show ran = _ from run]
    exact List.mem_cons_self
  have accepted : Status.isSuccess (⟨200, ""⟩ : Response).status = true := by
    decide
  have readable : ∃ document, decodeBody Json.Decoder.any "" = .ok document :=
    (Reply.consents_answered_iff accepted).1 (by decide)
  have grants : call.mayGrant = true := rfl
  obtain ⟨held, recorded, -⟩ := AccessCall.remembers_iff .local grants (.answering "")
    ⟨[], Ledger.empty⟩ sent asked accepted
  exact ⟨r, ⟨grants, sent, asked, accepted⟩, held.2 (.inl readable) .read (by decide),
    recorded readable⟩

/-- **A grant that was carried out is forgotten**: it was answered with a success whose text is no
document, and a teardown does not ask for its revocation. -/
theorem AccessModel.grant_forgotten :
    let m := AccessModel.local
    let env := Environment.answering "granted"
    let ran := AccessCall.oneGrant.run m env ⟨[], Ledger.empty⟩
    ∃ r, (Change.grant ⟨.space "a", .user "bob", .ofList [.read]⟩).AskedBy r ∧
      Event.exchanged r (.answered ⟨200, "granted"⟩) ∈ ran.2.transcript.since [] ∧
      Status.isSuccess 200 = true ∧
      ran.2.ledger.holds (.user "bob") (.space "a") .read = false ∧ ran.2.ledger.isEmpty = true ∧
      (m.teardown env ran.2).2.transcript = ran.2.transcript := by
  intro m env ran
  obtain ⟨r, asked, run⟩ := AccessCall.run_oneGrant "granted"
  have unread : ¬ (Reply.answered ⟨200, "granted"⟩).Consents := by
    decide
  have reached : ran.2 = ⟨[.exchanged r (.answered ⟨200, "granted"⟩)], Ledger.empty⟩ := by
    rw [show ran = _ from run]
    cases consent : (Reply.answered ⟨200, "granted"⟩).consent with
    | ok u => exact absurd (Reply.consent_eq_ok_iff.1 consent) unread
    | error f => rfl
  rw [reached]
  exact ⟨r, asked, List.mem_cons_self, by decide, rfl, rfl, rfl⟩

end AccessHarness
