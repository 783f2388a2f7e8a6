import AccessHarness.Proofs.Access.Platform
import Mathlib.Data.List.Infix
import Mathlib.Data.Set.BooleanAlgebra
import Mathlib.Order.CompletePartialOrder

/-!
# What a stretch of a session does

Between two transcripts of one run lies what happened in between (`Transcript.since`), all of one
kind perhaps (`Transcript.ExtendsWithin`), and a platform that keeps a store holds one before it and
one after.  Three relations say what became of the store; each is a preorder, so a whole session is
related as soon as its calls are (`Program.Leads.bind`).

* `Untouched` — nothing was asked for, and the store is the same.
* `Reduced` — the store lost something at most.
* `Revoking which` — only revocations of some kind were asked for.

### What is load-bearing

`Revoking` ties the store to the answers in both directions: what a platform accepted to revoke
is gone (`Revoking.gone`), and what is gone was revoked with its consent (`Revoking.cause`).  The
first holds for a stretch, not only for one request, because nothing is granted within it.
-/

namespace AccessHarness

namespace Transcript

/-- What happened after `t`, up to `t'`. -/
def since (t' t : Transcript) : Transcript := t'.take (t'.length - t.length)

theorem since_append (during t : Transcript) : since (during ++ t) t = during := by
  simp [since]

@[simp] theorem since_self (t : Transcript) : since t t = [] := since_append [] t

@[simp] theorem since_cons (x : Event) (t : Transcript) : since (x :: t) t = [x] :=
  since_append [x] t

/-- What happened so far is what happened before and what happened since. -/
theorem eq_since_append {t t' : Transcript} (h : t <:+ t') : t' = since t' t ++ t := by
  obtain ⟨during, rfl⟩ := h
  rw [since_append]

/-- What happened in two stretches, one after the other. -/
theorem since_trans {t t₁ t₂ : Transcript} (h : t <:+ t₁) (h' : t₁ <:+ t₂) :
    since t₂ t = since t₂ t₁ ++ since t₁ t := by
  obtain ⟨first, rfl⟩ := h
  obtain ⟨second, rfl⟩ := h'
  rw [since_append, since_append, ← List.append_assoc, since_append]

/-- What was exchanged before comes first. -/
theorem exchanges_append (during t : Transcript) :
    exchanges (during ++ t) = exchanges t ++ exchanges during := by
  unfold exchanges
  rw [List.reverse_append, List.filterMap_append]

/-- Of two parts of one history that end it, one ends before something that the other begins
with, or goes on with it. -/
theorem suffix_or_cons_suffix {x : Event} {t u whole : Transcript} (ht : t <:+ whole)
    (hu : x :: u <:+ whole) : t <:+ u ∨ x :: u <:+ t := by
  rcases List.suffix_or_suffix_of_suffix ht hu with short | long
  · rcases List.suffix_cons_iff.1 short with same | shorter
    · exact .inr (same ▸ List.suffix_refl _)
    · exact .inl shorter
  · exact .inr long

/-- **One transcript goes on from another**, by events of one kind. -/
structure ExtendsWithin (kind : Event → Prop) (t t' : Transcript) : Prop where
  grows : t <:+ t'
  within : ∀ x ∈ t'.since t, kind x

variable {kind : Event → Prop}

theorem extendsWithin_append {during t : Transcript} :
    ExtendsWithin kind t (during ++ t) ↔ ∀ x ∈ during, kind x := by
  constructor
  · intro h
    rw [← since_append during t]
    exact h.within
  · intro h
    refine ⟨List.suffix_append during t, ?_⟩
    rwa [since_append]

theorem ExtendsWithin.mono {kind' : Event → Prop} {t t' : Transcript}
    (h : ExtendsWithin kind t t') (sub : ∀ x, kind x → kind' x) : ExtendsWithin kind' t t' :=
  ⟨h.grows, fun x mem => sub x (h.within x mem)⟩

/-- One more event of the kind. -/
theorem extendsWithin_cons {x : Event} (t : Transcript) (h : kind x) :
    ExtendsWithin kind t (x :: t) := by
  have one : ExtendsWithin kind t ([x] ++ t) := by
    rw [extendsWithin_append]
    intro y mem
    rwa [List.mem_singleton.1 mem]
  exact one

instance : IsPreorder Transcript (ExtendsWithin kind) where
  refl t := by
    refine ⟨List.suffix_refl t, ?_⟩
    rw [since_self]
    exact List.forall_mem_nil kind
  trans t t₁ t₂ h h' := by
    obtain ⟨⟨first, rfl⟩, h⟩ := h
    obtain ⟨⟨second, rfl⟩, h'⟩ := h'
    rw [since_append] at h h'
    rw [← List.append_assoc, extendsWithin_append]
    intro x mem
    exact (List.mem_append.1 mem).elim (h' x) (h x)

end Transcript

namespace Environment

variable (env : Environment)

theorem suffix_after (t : Transcript) (r : Request) : t <:+ env.after t r :=
  List.suffix_cons _ t

theorem since_after (t : Transcript) (r : Request) :
    (env.after t r).since t = [.exchanged r (env.respond t r)] :=
  Transcript.since_cons _ t

end Environment

/-- **A change was asked for, and accepted or not**, in some stretch of a session. -/
def Change.AnsweredIn (ch : Change) (accepted : Bool) (during : Transcript) : Prop :=
  ∃ r reply, .exchanged r reply ∈ during ∧ ch.AskedBy r ∧ reply.isAccepted = accepted

namespace Change

variable {ch : Change} {accepted : Bool} {env : Environment}

theorem not_answeredIn_nil : ¬ ch.AnsweredIn accepted [] := by
  rintro ⟨r, reply, mem, -⟩
  cases mem

theorem answeredIn_append {first second : Transcript} :
    ch.AnsweredIn accepted (second ++ first) ↔
      ch.AnsweredIn accepted second ∨ ch.AnsweredIn accepted first := by
  unfold AnsweredIn
  simp only [List.mem_append, or_and_right, exists_or]

theorem answeredIn_since_trans {t t₁ t₂ : Transcript} (h : t <:+ t₁) (h' : t₁ <:+ t₂) :
    ch.AnsweredIn accepted (t₂.since t) ↔
      ch.AnsweredIn accepted (t₂.since t₁) ∨ ch.AnsweredIn accepted (t₁.since t) := by
  rw [Transcript.since_trans h h', answeredIn_append]

theorem answeredIn_after {t : Transcript} {r : Request} :
    ch.AnsweredIn accepted ((env.after t r).since t) ↔
      ch.AskedBy r ∧ (env.respond t r).isAccepted = accepted := by
  rw [Environment.since_after]
  constructor
  · rintro ⟨r', reply, mem, asked, answer⟩
    cases List.mem_singleton.1 mem
    exact ⟨asked, answer⟩
  · rintro ⟨asked, answer⟩
    exact ⟨r, env.respond t r, List.mem_singleton.2 rfl, asked, answer⟩

end Change

/-! ### Relations between transcripts -/

variable {env : Environment} {held : Transcript → Store}

/-- **Nothing was asked for**, and the store is as it was. -/
structure Untouched (held : Transcript → Store) (t t' : Transcript) : Prop where
  grows : t <:+ t'
  same : held t' = held t
  silent : ∀ ch accepted, ¬ Change.AnsweredIn ch accepted (t'.since t)

/-- **The store lost something at most.** -/
structure Reduced (held : Transcript → Store) (t t' : Transcript) : Prop where
  grows : t <:+ t'
  shrinks : held t' ⊆ held t

/-- **Only revocations were asked for**, all of them of some kind. -/
structure Revoking (held : Transcript → Store) (which : RevokeRequest → Prop)
    (t t' : Transcript) : Prop extends Reduced held t t' where
  /-- What was accepted is gone for good. -/
  gone : ∀ {v x}, (Change.revoke v).AnsweredIn true (t'.since t) → x ∈ v.covers → x ∉ held t'
  /-- What is gone was revoked. -/
  cause : ∀ {x}, x ∈ held t → x ∉ held t' →
    ∃ v, which v ∧ x ∈ v.covers ∧ (Change.revoke v).AnsweredIn true (t'.since t)

instance : IsPreorder Transcript (Untouched held) where
  refl t := by
    refine ⟨List.suffix_refl t, rfl, ?_⟩
    intro ch accepted
    rw [Transcript.since_self]
    exact Change.not_answeredIn_nil
  trans t t₁ t₂ h h' := by
    refine ⟨h.grows.trans h'.grows, h'.same.trans h.same, ?_⟩
    intro ch accepted
    rw [Change.answeredIn_since_trans h.grows h'.grows]
    rintro (later | earlier)
    · exact h'.silent ch accepted later
    · exact h.silent ch accepted earlier

instance : IsPreorder Transcript (Reduced held) where
  refl t := ⟨List.suffix_refl t, subset_rfl⟩
  trans _ _ _ h h' := ⟨h.grows.trans h'.grows, h'.shrinks.trans h.shrinks⟩

theorem Untouched.reduced {t t' : Transcript} (h : Untouched held t t') : Reduced held t t' :=
  ⟨h.grows, h.same.le⟩

theorem Untouched.revoking {which : RevokeRequest → Prop} {t t' : Transcript}
    (h : Untouched held t t') : Revoking held which t t' where
  toReduced := h.reduced
  gone accepted := absurd accepted (h.silent _ _)
  cause before after := absurd (h.same ▸ before) after

instance {which : RevokeRequest → Prop} : IsPreorder Transcript (Revoking held which) where
  refl t := (refl_of (Untouched held) t).revoking
  trans t t₁ t₂ h h' := by
    refine ⟨trans_of _ h.toReduced h'.toReduced, ?_, ?_⟩
    · intro v x accepted covered
      rw [Change.answeredIn_since_trans h.grows h'.grows] at accepted
      rcases accepted with later | earlier
      · exact h'.gone later covered
      · intro remains
        exact h.gone earlier covered (h'.shrinks remains)
    · intro x before after
      -- what is gone in the end went in one of the two stretches
      by_cases middle : x ∈ held t₁
      · obtain ⟨v, kind, covered, accepted⟩ := h'.cause middle after
        exact ⟨v, kind, covered, (Change.answeredIn_since_trans h.grows h'.grows).2 (.inl accepted)⟩
      · obtain ⟨v, kind, covered, accepted⟩ := h.cause before middle
        exact ⟨v, kind, covered, (Change.answeredIn_since_trans h.grows h'.grows).2 (.inr accepted)⟩

theorem Revoking.weaken {which which' : RevokeRequest → Prop} {t t' : Transcript}
    (sub : ∀ v, which v → which' v) (h : Revoking held which t t') : Revoking held which' t t' where
  toReduced := h.toReduced
  gone := h.gone
  cause before after := by
    obtain ⟨v, kind, covered, accepted⟩ := h.cause before after
    exact ⟨v, sub v kind, covered, accepted⟩

/-! ### Calls that change nothing -/

namespace Keeping

variable (K : Keeping env held)

include K

open Program (Leads)

/-- **A call that can ask for no change leaves the store alone.** -/
theorem leads_call (c : RestClient) {method : String} {body : Body}
    (neutral : Change.Neutral method body) (path : String) :
    Leads (Untouched held) env (c.call method path body) := by
  intro t
  rw [RestClient.call_apply]
  cases sent : c.request method path body with
  | error f => exact refl_of _ t
  | ok r =>
    -- a change goes by another method, or carries a document
    have nothing (ch : Change) : ¬ ch.AskedBy r := by
      intro asked
      obtain ⟨sameMethod, sameBody, -⟩ := RestClient.request_eq_ok sent
      rw [Change.method_eq_of_askedBy asked] at sameMethod
      rw [Change.body_eq_of_askedBy asked] at sameBody
      exact neutral ch sameMethod sameBody
    refine ⟨env.suffix_after t r, K.kept fun _ => nothing, ?_⟩
    intro ch accepted answered
    exact nothing ch (Change.answeredIn_after.1 answered).1

theorem leads_get {α : Type} (c : RestClient) (d : Json.Decoder α) (path : String) :
    Leads (Untouched held) env (c.get d path) :=
  .bind (K.leads_call c (Change.neutral_get _) path) fun _ => Session.leads_ofOutcome _

theorem leads_putJson (c : RestClient) (path : String) (document : Json) :
    Leads (Untouched held) env (c.putJson path document) :=
  .bind (K.leads_call c (Change.neutral_put _) path) fun _ => .pure _

theorem leads_postEmpty (c : RestClient) (path : String) :
    Leads (Untouched held) env (c.postEmpty path) :=
  .bind (K.leads_call c Change.neutral_post_empty path) fun _ => .pure _

theorem leads_sleep (d : Nat) : Leads (Untouched held) env (Session.sleep d) := by
  intro t
  refine ⟨List.suffix_cons _ t, K.slept t d, ?_⟩
  rintro ch accepted ⟨r, reply, mem, -⟩
  have only : Transcript.since (.slept d :: t) t = [.slept d] :=
    Transcript.since_append [.slept d] t
  change _ ∈ Transcript.since (.slept d :: t) t at mem
  rw [only] at mem
  cases List.mem_singleton.1 mem

/-- What the policy does after a change is not a change. -/
theorem leads_refresh (m : AccessModel) : Leads (Untouched held) env m.refresh := by
  unfold AccessModel.refresh
  cases m.policy with
  | invalidateOnMutation => exact K.leads_postEmpty m.admin m.invalidatePath
  | stalenessWindow window => exact K.leads_sleep window
  | manual => exact .pure ()

/-- **A deletion takes away at most.**  This needs no look at what is deleted: a request that
voids a namespace does so too, whoever sent it and for what. -/
theorem leads_delete (c : RestClient) (path : String) :
    Leads (Reduced held) env (c.delete path) := by
  intro t
  rw [RestClient.delete_apply]
  cases sent : c.request "DELETE" path .empty with
  | error f => exact refl_of _ t
  | ok r =>
    refine ⟨env.suffix_after t r, ?_⟩
    by_cases effect : (env.respond t r).isAccepted = true ∧ ∃ ch : Change, ch.AskedBy r
    · obtain ⟨accepted, ch, asked⟩ := effect
      -- whatever was asked for, it goes by `DELETE`, so it takes away
      rw [K.applied asked accepted]
      have deletes := (RestClient.request_eq_ok sent).1
      rw [Change.method_eq_of_askedBy asked] at deletes
      cases ch with
      | grant g => exact absurd (show "POST" = "DELETE" from deletes) (by decide)
      | revoke v => exact absurd (show "POST" = "DELETE" from deletes) (by decide)
      | delete ns => exact Set.sdiff_subset
    · rw [K.kept]
      intro accepted ch asked
      exact effect ⟨accepted, ch, asked⟩

/-! ### Listings -/

/-- **A listing that succeeds is exact**, and can only come from a client that can send. -/
theorem privileges_eq_ok {m : AccessModel} {p : Principal} {t t' : Transcript}
    {listing : OrderedSet Privilege} (h : m.privileges p env t = (.ok listing, t')) :
    m.admin.CanSend ∧
      ∀ e a, OrderedMap.contains listing ⟨e, a⟩ = true ↔ ⟨p, e, a⟩ ∈ held t := by
  unfold AccessModel.privileges RestClient.listPrivileges RestClient.get at h
  rw [Program.bind_apply, RestClient.call_apply] at h
  cases sent : p.listingOf m.admin with
  | error f =>
    rw [Principal.listingOf] at sent
    rw [sent] at h
    cases h
  | ok r =>
    have asked : p.ListedBy r := ⟨m.admin, sent⟩
    rw [Principal.listingOf] at sent
    rw [sent] at h
    refine ⟨(m.admin.request_route_iff _ _ _).1 ⟨r, sent⟩, ?_⟩
    simp only at h
    cases accepted : (env.respond t r).isAccepted with
    | false =>
      obtain ⟨f, refused⟩ := Reply.outcome_of_not_isAccepted accepted
      rw [refused] at h
      cases h
    | true =>
      obtain ⟨response, answered, taken⟩ := Reply.outcome_of_isAccepted accepted
      rw [taken] at h
      rw [answered] at accepted
      exact K.listed asked answered accepted (congrArg Prod.fst h)

end Keeping

end AccessHarness
