import AccessHarness.Proofs.Access.Asking
import AccessHarness.Proofs.Rest.Places
import AccessHarness.Proofs.Scenario.Cleanup
import AccessHarness.Proofs.Scenario.Teardown

/-!
# Cleaning up takes nothing away that was there before

To delete what is registered the administrator may be granted more, and what was granted is
revoked in the end.  None of this touches a privilege from before, whatever is refused meanwhile.

* `Event.Revokes` — a request to revoke something was sent.
* `EntityId.not_delete_askedBy` — nothing that is deleted on its own is a namespace.
* `Restrained` — a stretch in which nothing is revoked, and only what nobody held is recorded.
* `AccessModel.revokes_of_teardown` — what the access model revokes is what it recorded.
* `Context.revocations_spare_prior` — what the two come to in the whole of a teardown.

### What is load-bearing

**A listing is exact only as long as nothing is lost.**  A grant is recorded if the listing before
it does not show the privilege.  Were the privilege there at first and lost meanwhile, it would be
granted, recorded, and revoked in the end.  So it has to be known what a deletion takes along: of an
entity, nothing; of a namespace, only what lies in it.  Namespaces come last and are granted on
themselves, and no namespace lies in another.  `Restrained` therefore names the entities whose
privileges are kept, and the two series of a teardown differ in nothing else.

**Nothing has to be read of the answers to a grant.**  One that was carried out and cannot be read
is not recorded, so it is not revoked either; a platform that keeps a store (`Keeping`) will do.

**Names made of dots.**  The path of a deletion is resolved before it is sent, so that the deletion
of one thing could be that of another.  The deletion of a stream `..` goes to the place of its
namespace, but not to the place where namespaces are deleted: `Path.OfNamespaceDeletion` tells the
two apart by the segments before the last.
-/

namespace AccessHarness

open Program (Leads)
open Transcript (ExtendsWithin)

/-! ### Where deletions go -/

namespace Path

open Route (encoded)

/-- A segment in the middle that is no dot form comes after what became of the one before. -/
theorem walk_past (above : List (List Char)) (seg : List Char) {next : List Char}
    (rest : List (List Char)) (hup : isUp next = false) (hhere : isHere next = false) :
    ∃ sofar, (sofar = encodeSegment seg :: above ∨ sofar = above ∨ sofar = leave above) ∧
      walk above (seg :: next :: rest) = walk (encodeSegment next :: sofar) rest := by
  rw [walk]
  · split
    · exact ⟨_, .inr (.inr rfl), walk_keep hup hhere⟩
    · split
      · exact ⟨_, .inr (.inl rfl), walk_keep hup hhere⟩
      · exact ⟨_, .inl rfl, walk_keep hup hhere⟩
  · simp

/-- The last segment is put below what is above it, or below one segment less. -/
theorem walk_last (above : List (List Char)) (last : List Char) :
    ∃ x sofar, (sofar = above ∨ sofar = leave above) ∧
      (walk above [last]).reverse = x :: sofar := by
  unfold walk
  split
  · exact ⟨_, _, .inr rfl, List.reverse_reverse _⟩
  · split
    · exact ⟨_, _, .inl rfl, List.reverse_reverse _⟩
    · exact ⟨_, _, .inl rfl, List.reverse_reverse _⟩

/-- **Where namespaces are deleted**, the last segment first: the name may be that of the directory
above. -/
def OfNamespaceDeletion (l : List (List Char)) : Prop :=
  ∃ x above, l = x :: encoded "namespaces" :: encoded "unrecoverable" :: above ∨
    l = x :: encoded "unrecoverable" :: encoded "v3" :: above

/-- The segment before the last tells most places apart from these. -/
theorem not_ofNamespaceDeletion {x : List Char} {collection : String} {above : List (List Char)}
    (other : collection ≠ "namespaces") (other' : collection ≠ "unrecoverable") :
    ¬ OfNamespaceDeletion (x :: encoded collection :: above) := by
  rintro ⟨y, rest, same | same⟩
  · simp only [List.cons.injEq, Route.encoded_inj] at same
    exact other same.2.1
  · simp only [List.cons.injEq, Route.encoded_inj] at same
    exact other' same.2.1

/-- A name in a namespace leaves the version in place, and what comes after it. -/
private theorem walk_namespace (above : List (List Char)) (ns : String) {next : String}
    (rest : List (List Char)) (hup : isUp (encoded next) = false)
    (hhere : isHere (encoded next) = false) :
    ∃ sofar, (∀ x, ¬ OfNamespaceDeletion (x :: sofar)) ∧
      walk (encoded "v3" :: above) (encoded "namespaces" :: encoded ns :: encoded next :: rest) =
        walk (encoded next :: sofar) rest := by
  have up : leave (encoded "namespaces" :: encoded "v3" :: above) = encoded "v3" :: above := by
    unfold leave
    exact if_neg (by decide)
  rw [walk_keep (by decide) (by decide), Route.encodeSegment_encoded]
  obtain ⟨sofar, cases, walked⟩ := walk_past (encoded "namespaces" :: encoded "v3" :: above)
    (encoded ns) rest hup hhere
  rw [Route.encodeSegment_encoded] at walked
  refine ⟨sofar, ?_, walked⟩
  rw [up, Route.encodeSegment_encoded] at cases
  intro x
  rcases cases with rfl | rfl | rfl
  · rintro ⟨y, rest, same | same⟩ <;>
      simp [Route.encoded_inj] at same
  · rintro ⟨y, rest, same | same⟩ <;>
      simp [Route.encoded_inj] at same
  · exact not_ofNamespaceDeletion (by decide) (by decide)

end Path

namespace RestClient

open Route (encoded)

variable {c : RestClient} {method : String} {body : Body} {r : Request}

/-- The path of a sent route, read from its end; the version is kept in any case. -/
theorem walk_of_request_route {segments : List String}
    (sent : c.request method (Route.path segments) body = .ok r) :
    r.url.path = .rooted (Path.walk (encoded "v3" :: c.base.directory.reverse)
      (segments.map encoded)) := by
  have version : ['v', '3'] = encoded "v3" := by decide
  rw [path_of_request_route sent, version, Path.walk_keep (by decide) (by decide),
    Route.encodeSegment_encoded]

end RestClient

/-- A namespace is deleted at a place of its own, however it is called. -/
theorem Change.ofNamespaceDeletion_of_askedBy {ns : NamespaceId} {r : Request}
    (asked : (Change.delete ns).AskedBy r) :
    ∃ l, r.url.path = .rooted l ∧ Path.OfNamespaceDeletion l.reverse := by
  obtain ⟨c, sent⟩ := asked
  refine ⟨_, RestClient.walk_of_request_route sent, ?_⟩
  rw [Change.route, List.map_cons, List.map_cons, List.map_cons, List.map_nil,
    Path.walk_keep (by decide) (by decide), Path.walk_keep (by decide) (by decide),
    Route.encodeSegment_encoded, Route.encodeSegment_encoded]
  obtain ⟨x, sofar, rfl | rfl, ends⟩ := Path.walk_last _ (Route.encoded ns.name)
  · rw [ends]
    exact ⟨x, _, .inl rfl⟩
  · rw [ends]
    exact ⟨x, _, .inr rfl⟩

namespace RestClient

open Route (encoded)

variable {c : RestClient} {method : String} {body : Body} {r : Request} {ns name : String}

/-- A request to something in a collection of a namespace goes elsewhere. -/
theorem not_delete_askedBy_of_content {collection : String}
    (sent : c.request method (Route.path ["namespaces", ns, collection, name]) body = .ok r)
    (hup : Path.isUp (encoded collection) = false)
    (hhere : Path.isHere (encoded collection) = false)
    (drive : Path.startsWithDrive (encoded collection) = false)
    (other : collection ≠ "namespaces") (other' : collection ≠ "unrecoverable")
    (ns' : NamespaceId) : ¬ (Change.delete ns').AskedBy r := by
  intro asked
  obtain ⟨l, place, deleted⟩ := Change.ofNamespaceDeletion_of_askedBy asked
  obtain ⟨sofar, below, walked⟩ := Path.walk_namespace c.base.directory.reverse ns
    [encoded name] hup hhere
  rw [walk_of_request_route sent, UrlPath.rooted.injEq] at place
  rw [← place, List.map_cons, List.map_cons, List.map_cons, List.map_cons, List.map_nil,
    walked] at deleted
  -- the name takes at most the collection back
  obtain ⟨x, rest, rfl | rfl, ends⟩ := Path.walk_last (encoded collection :: sofar) (encoded name)
  · rw [ends] at deleted
    exact Path.not_ofNamespaceDeletion other other' deleted
  · rw [ends, Path.leave, drive] at deleted
    exact below x deleted

/-- So does a request to a dataset. -/
theorem not_delete_askedBy_of_dataset
    (sent : c.request method (Route.path ["namespaces", ns, "data", "datasets", name]) body = .ok r)
    (ns' : NamespaceId) : ¬ (Change.delete ns').AskedBy r := by
  intro asked
  obtain ⟨l, place, deleted⟩ := Change.ofNamespaceDeletion_of_askedBy asked
  obtain ⟨sofar, -, walked⟩ := Path.walk_namespace c.base.directory.reverse ns
    [encoded "datasets", encoded name] (show Path.isUp (encoded "data") = false by decide)
    (by decide)
  rw [walk_of_request_route sent, UrlPath.rooted.injEq] at place
  rw [← place, List.map_cons, List.map_cons, List.map_cons, List.map_cons, List.map_cons,
    List.map_nil, walked, Path.walk_keep (by decide) (by decide),
    Route.encodeSegment_encoded] at deleted
  have up : Path.leave (encoded "datasets" :: encoded "data" :: sofar) =
      encoded "data" :: sofar := by
    unfold Path.leave
    exact if_neg (by decide)
  obtain ⟨x, rest, rfl | rfl, ends⟩ :=
    Path.walk_last (encoded "datasets" :: encoded "data" :: sofar) (encoded name)
  · rw [ends] at deleted
    exact Path.not_ofNamespaceDeletion (by decide) (by decide) deleted
  · rw [ends, up] at deleted
    exact Path.not_ofNamespaceDeletion (by decide) (by decide) deleted

end RestClient

/-- **Nothing that is deleted on its own is a namespace**, not even by the place it is deleted at. -/
theorem EntityId.not_delete_askedBy {e : EntityId} {path : String} {c : RestClient} {r : Request}
    (deletable : e.deletionPath? = some path) (sent : c.request "DELETE" path .empty = .ok r)
    (ns : NamespaceId) : ¬ (Change.delete ns).AskedBy r := by
  cases e with
  | stream ns' name =>
    cases deletable
    exact RestClient.not_delete_askedBy_of_content sent (by decide) (by decide) (by decide)
      (by decide) (by decide) ns
  | application ns' name =>
    cases deletable
    exact RestClient.not_delete_askedBy_of_content sent (by decide) (by decide) (by decide)
      (by decide) (by decide) ns
  | dataset ns' name =>
    cases deletable
    exact RestClient.not_delete_askedBy_of_dataset sent ns
  | _ => cases deletable

/-! ### Restraint -/

/-- **A request to revoke something was sent.** -/
def Event.Revokes (x : Event) (v : RevokeRequest) : Prop :=
  ∃ r reply, x = .exchanged r reply ∧ (Change.revoke v).AskedBy r

/-- **Nothing is revoked, and what is recorded was held by nobody.**  What `kept` speaks of is not
lost; of the rest, only what lies in a namespace that is deleted. -/
structure Restrained (held : Transcript → Store) (kept : EntityId → Prop) (s s' : AccessState) :
    Prop where
  silent : ExtendsWithin (fun x => ∀ v, ¬ x.Revokes v) s.transcript s'.transcript
  lost : ∀ x ∈ held s.transcript, x ∉ held s'.transcript → ¬ kept x.entity ∧
    ∃ ns : NamespaceId, x ∈ ns.contents ∧
      (Change.delete ns).AnsweredIn true (s'.transcript.since s.transcript)
  recorded : ∀ x ∈ s'.ledger.entitlements, x ∉ s.ledger.entitlements →
    kept x.entity ∧ x ∉ held s.transcript

namespace Restrained

variable {held : Transcript → Store} {kept : EntityId → Prop} {s s' : AccessState}

instance : IsPreorder AccessState (Restrained held kept) where
  refl s := ⟨refl_of _ s.transcript, fun _ mem lost => absurd mem lost,
    fun _ mem new => absurd mem new⟩
  trans s s₁ s₂ h h' := by
    refine ⟨trans_of _ h.silent h'.silent, ?_, ?_⟩
    · intro x before after
      by_cases middle : x ∈ held s₁.transcript
      · obtain ⟨other, ns, inside, deleted⟩ := h'.lost x middle after
        exact ⟨other, ns, inside,
          (Change.answeredIn_since_trans h.silent.grows h'.silent.grows).2 (.inl deleted)⟩
      · obtain ⟨other, ns, inside, deleted⟩ := h.lost x before middle
        exact ⟨other, ns, inside,
          (Change.answeredIn_since_trans h.silent.grows h'.silent.grows).2 (.inr deleted)⟩
    · intro x claimed new
      by_cases earlier : x ∈ s₁.ledger.entitlements
      · exact h.recorded x earlier new
      · obtain ⟨keeps, absent⟩ := h'.recorded x claimed earlier
        -- what is kept and not held now was not held before
        refine ⟨keeps, ?_⟩
        intro before
        exact (h.lost x before absent).1 keeps

theorem of_untouched (h : Untouched held s.transcript s'.transcript) (same : s'.ledger = s.ledger) :
    Restrained held kept s s' := by
  refine ⟨⟨h.grows, ?_⟩, ?_, ?_⟩
  · rintro x mem v ⟨r, reply, rfl, asked⟩
    exact h.silent (.revoke v) reply.isAccepted ⟨r, reply, mem, asked, rfl⟩
  · intro x before after
    exact absurd (h.same ▸ before) after
  · intro x claimed new
    exact absurd (same ▸ claimed) new

/-- Forgetting is no matter. -/
theorem of_forgotten {l : Ledger} (less : l.entitlements ⊆ s.ledger.entitlements) :
    Restrained held kept s ⟨s.transcript, l⟩ where
  silent := refl_of _ s.transcript
  lost _ mem lost := absurd mem lost
  recorded _ claimed new := absurd (less claimed) new

theorem leads_of_untouched {env : Environment} {α : Type} {m : Session α}
    (h : Leads (Untouched held) env m) :
    Leads (Restrained held kept) env (liftM m : AccessAct α) := fun s =>
  of_untouched (h s.transcript) rfl

end Restrained

section

variable {env : Environment} {held : Transcript → Store} (K : Keeping env held)
variable {kept : EntityId → Prop}

include K

/-- **A grant of what nobody holds** is restrained, whatever is made of the answer. -/
theorem AccessModel.restrained_issueGrant (m : AccessModel) {p : Principal} {e : EntityId}
    {actions : ActionSet} {s : AccessState} (keeps : kept e)
    (absent : ∀ a, actions.contains a = true → ⟨p, e, a⟩ ∉ held s.transcript) :
    Restrained held kept s (m.issueGrant p e actions env s).2 := by
  rw [issueGrant_eq, Program.bind_apply, AccessAct.liftM_apply, RestClient.ask_apply _ rfl]
  cases sent : (Change.grant ⟨e, p, actions⟩).requestOf m.admin with
  | error f => exact refl_of _ s
  | ok r =>
    have granted : (Change.grant ⟨e, p, actions⟩).AskedBy r := ⟨m.admin, sent⟩
    have silent : ExtendsWithin (fun x => ∀ v, ¬ x.Revokes v) s.transcript
        (env.after s.transcript r) := by
      refine Transcript.extendsWithin_cons _ ?_
      rintro v ⟨r', reply, same, revoked⟩
      cases same
      cases Change.eq_of_askedBy granted revoked (Change.method_eq_of_askedBy granted)
    have grown : held s.transcript ⊆ held (env.after s.transcript r) := by
      rw [K.held_after granted]
      split
      · exact Set.subset_union_left
      · exact subset_rfl
    simp only
    cases (env.respond s.transcript r).consent with
    | error f =>
      exact ⟨silent, fun x before after => absurd (grown before) after,
        fun x claimed new => absurd claimed new⟩
    | ok u =>
      refine ⟨silent, fun x before after => absurd (grown before) after, ?_⟩
      intro x claimed new
      change x ∈ (s.ledger.recordGrant p e actions).entitlements at claimed
      rw [s.ledger.entitlements_recordGrant ⟨e, p, actions⟩] at claimed
      obtain claimed | ⟨rfl, rfl, granted⟩ := claimed
      · exact absurd claimed new
      · exact ⟨keeps, absent x.action granted⟩

/-- **Nothing is granted that is held already**, for a listing is exact. -/
theorem AccessModel.restrained_grantIfMissing (m : AccessModel) (p : Principal) {e : EntityId}
    (a : Action) (keeps : kept e) :
    Leads (Restrained held kept) env (m.grantIfMissing p e a) := by
  intro s
  unfold grantIfMissing
  rw [Program.bind_apply, AccessAct.ledger_apply]
  simp only
  split
  · exact refl_of _ s
  · rw [Program.bind_apply, AccessAct.liftM_apply]
    have listed : Untouched held s.transcript (m.privileges p env s.transcript).2 :=
      K.leads_get _ _ _ s.transcript
    rcases listing? : m.privileges p env s.transcript with ⟨f | listing, t⟩ <;>
      rw [listing?] at listed
    · exact .of_untouched listed rfl
    · have untouched : Restrained held kept s ⟨t, s.ledger⟩ := .of_untouched listed rfl
      simp only
      split
      · exact untouched
      · rename_i unlisted
        have absent (a' : Action) (granted : (ActionSet.ofList [a]).contains a' = true) :
            ⟨p, e, a'⟩ ∉ held t := by
          rw [ActionSet.contains_ofList, List.contains_iff_mem, List.mem_singleton] at granted
          rw [granted, show held t = held s.transcript from listed.same]
          intro before
          exact unlisted (((K.privileges_eq_ok listing?).2 e a).2 before)
        have granted := m.restrained_issueGrant K (s := ⟨t, s.ledger⟩) keeps absent
        refine trans_of _ untouched ?_
        unfold grant
        rw [Program.bind_apply]
        generalize m.issueGrant p e (ActionSet.ofList [a]) env ⟨t, s.ledger⟩ = out at granted ⊢
        obtain ⟨f | u, s₁⟩ := out
        · exact granted
        · exact trans_of _ granted (Restrained.leads_of_untouched (K.leads_refresh m) s₁)

/-- **A deletion takes along at most what lies in a namespace that it is a deletion of.** -/
theorem RestClient.restrained_delete (c : RestClient) (path : String)
    (spares : ∀ r ns, c.request "DELETE" path .empty = .ok r → (Change.delete ns).AskedBy r →
      ∀ e : EntityId, e.isContainedIn ns = true → ¬ kept e) :
    Leads (Restrained held kept) env (liftM (c.delete path) : AccessAct Unit) := by
  intro s
  rw [AccessAct.liftM_apply, delete_apply]
  cases sent : c.request "DELETE" path .empty with
  | error f => exact refl_of _ s
  | ok r =>
    have method : r.method = "DELETE" := (request_eq_ok sent).1
    have posted {ch : Change} (asked : ch.AskedBy r) (post : ch.method = "POST") : False := by
      rw [← Change.method_eq_of_askedBy asked, method] at post
      exact absurd post (by decide)
    refine ⟨Transcript.extendsWithin_cons _ ?_, ?_, fun x claimed new => absurd claimed new⟩
    · rintro v ⟨r', reply, same, asked⟩
      cases same
      exact posted asked rfl
    · intro x before after
      by_cases effect : (env.respond s.transcript r).isAccepted = true ∧
          ∃ ch : Change, ch.AskedBy r
      · obtain ⟨accepted, ch, asked⟩ := effect
        have done : held (env.after s.transcript r) = ch.apply (held s.transcript) :=
          K.applied asked accepted
        cases ch with
        | grant g => exact (posted asked rfl).elim
        | revoke v => exact (posted asked rfl).elim
        | delete ns =>
          have inside : x ∈ ns.contents := by
            by_contra outside
            refine after ?_
            show x ∈ held (env.after s.transcript r)
            rw [done]
            exact ⟨before, outside⟩
          exact ⟨spares r ns sent asked x.entity inside, ns, inside,
            Change.answeredIn_after.2 ⟨asked, accepted⟩⟩
      · refine absurd ?_ after
        show x ∈ held (env.after s.transcript r)
        rw [K.kept fun accepted ch asked => effect ⟨accepted, ch, asked⟩]
        exact before

end

namespace AccessModel

variable (m : AccessModel) (env : Environment)

/-- **What the access model revokes is what it recorded**, and nothing else. -/
theorem revokes_of_teardown (s : AccessState) :
    ExtendsWithin (fun x => ∀ v, x.Revokes v → ∃ g ∈ s.ledger.grants, v = g.revocation)
      s.transcript (m.teardown env s).2.transcript := by
  refine m.rel_teardown s ?_ ?_
  · intro g mem t
    rw [RestClient.ask_apply _ rfl]
    cases sent : (Change.revoke g.revocation).requestOf m.admin with
    | error f => exact refl_of _ t
    | ok r =>
      refine Transcript.extendsWithin_cons t ?_
      rintro v ⟨r', reply, same, revoked⟩
      cases same
      have own : (Change.revoke g.revocation).AskedBy r := ⟨m.admin, sent⟩
      cases Change.eq_of_askedBy own revoked (Change.method_eq_of_askedBy own)
      exact ⟨g, mem, rfl⟩
  · intro t
    have refreshed : ExtendsWithin m.Refreshes t (m.refresh env t).2 := m.leads_refresh_within t
    refine refreshed.mono ?_
    rintro x refreshes v ⟨r, reply, rfl, asked⟩
    exact absurd asked (refreshes.not_askedBy _)

end AccessModel

namespace Context

variable {env : Environment} {held : Transcript → Store} (K : Keeping env held) (c : Context)

include K

/-- Cleaning up an entity loses nothing at all. -/
theorem restrained_cleanupEntity (e : EntityId) :
    Leads (Restrained held fun _ => True) env (c.cleanupEntity e) := by
  rw [cleanupEntity_eq]
  cases deletable : e.deletionPath? with
  | none => exact .pure ()
  | some path =>
    refine .bind (c.access.restrained_grantIfMissing K c.adminPrincipal .admin trivial) fun _ => ?_
    refine c.admin.restrained_delete K path ?_
    intro r ns sent asked
    exact absurd asked (EntityId.not_delete_askedBy deletable sent ns)

/-- Cleaning up a namespace loses no privilege on a namespace. -/
theorem restrained_cleanupNamespace (ns : NamespaceId) :
    Leads (Restrained held fun e => e.isNamespace = true) env (c.cleanupNamespace ns) := by
  rw [cleanupNamespace_eq]
  refine .bind (c.access.restrained_grantIfMissing K c.adminPrincipal .admin rfl) fun _ => ?_
  refine c.admin.restrained_delete K _ ?_
  intro r ns' _ _ e inside isNamespace
  rw [EntityId.isContainedIn, isNamespace] at inside
  cases inside

omit K in
/-- Forgetting what lies in a deleted namespace is no matter. -/
private theorem restrained_recorded {kept : EntityId → Prop} (ns : NamespaceId) (s : AccessState) :
    Restrained held kept s ⟨s.transcript, s.ledger.recordNamespaceDeleted ns⟩ := by
  refine .of_forgotten ?_
  rw [Ledger.entitlements_recordNamespaceDeleted]
  exact Set.sdiff_subset

/-- **A teardown in two parts**: deletions that revoke nothing and record nothing that was held at
first, then the teardown of the access model. -/
theorem exists_restrained (s : ContextState) :
    ∃ mid, ExtendsWithin (fun x => ∀ v, ¬ x.Revokes v) s.access.transcript mid.transcript ∧
      (∀ x ∈ held s.access.transcript, x ∉ held mid.transcript → ∃ ns : NamespaceId,
        x ∈ ns.contents ∧
          (Change.delete ns).AnsweredIn true (mid.transcript.since s.access.transcript)) ∧
      (∀ x ∈ mid.ledger.entitlements, x ∈ held s.access.transcript →
        x ∈ s.access.ledger.entitlements) ∧
      (c.teardown env s).2.access = (c.access.teardown env mid).2 := by
  obtain ⟨first, s₁, ended, entities⟩ := c.leads_cleanupEntities (restrained_cleanupEntity K c)
    s.entities.reverse none s.access
  obtain ⟨first', s₂, ended', namespaces⟩ := c.leads_cleanupNamespaces
    (restrained_cleanupNamespace K c) (fun ns s' _ _ => restrained_recorded ns _)
    s.namespaces.reverse first s₁
  have all (x : Entitlement) (before : x ∈ held s.access.transcript) : x ∈ held s₁.transcript := by
    by_contra lost
    exact (entities.lost x before lost).1 trivial
  refine ⟨s₂, trans_of _ entities.silent namespaces.silent, ?_, ?_,
    (c.teardown_of_parts ended ended').1⟩
  · intro x before after
    obtain ⟨-, ns, inside, deleted⟩ := namespaces.lost x (all x before) after
    exact ⟨ns, inside, (Change.answeredIn_since_trans entities.silent.grows
      namespaces.silent.grows).2 (.inl deleted)⟩
  · intro x claimed before
    by_contra new
    by_cases earlier : x ∈ s₁.ledger.entitlements
    · exact (entities.recorded x earlier new).2 before
    · exact (namespaces.recorded x claimed earlier).2 (all x before)

/-- **What a teardown takes away of what was held at first** is what the ledger had at first, and
what lies in a namespace that was deleted. -/
theorem revocations_of_teardown (s : ContextState) :
    let torn := (c.teardown env s).2.access.transcript
    (∀ x ∈ torn.since s.access.transcript, ∀ v, x.Revokes v →
      ∀ y ∈ v.covers, y ∈ held s.access.transcript → y ∈ s.access.ledger.entitlements) ∧
    ∀ y ∈ held s.access.transcript, y ∉ held torn →
      y ∈ s.access.ledger.entitlements ∨ ∃ ns : NamespaceId, y ∈ ns.contents ∧
        (Change.delete ns).AnsweredIn true (torn.since s.access.transcript) := by
  obtain ⟨mid, silent, lost, recorded, access⟩ := exists_restrained K c s
  intro torn
  have same : torn = (c.access.teardown env mid).2.transcript :=
    congrArg AccessState.transcript access
  have revokes := c.access.revokes_of_teardown env mid
  have revoking := AccessModel.revoking_teardown K c.access mid
  rw [← same] at revokes revoking
  have claimed {v : RevokeRequest} {y : Entitlement} (own : ∃ g ∈ mid.ledger.grants,
      v = g.revocation) (covered : y ∈ v.covers) (before : y ∈ held s.access.transcript) :
      y ∈ s.access.ledger.entitlements := by
    obtain ⟨g, mem, rfl⟩ := own
    exact recorded y (Ledger.mem_entitlements_iff_exists_grant.2 ⟨g, mem, covered⟩) before
  refine ⟨?_, ?_⟩
  · intro x mem v revoked y covered before
    rw [Transcript.since_trans silent.grows revokes.grows] at mem
    rcases List.mem_append.1 mem with late | early
    · exact claimed (revokes.within x late v revoked) covered before
    · exact absurd revoked (silent.within x early v)
  · intro y before after
    by_cases middle : y ∈ held mid.transcript
    · obtain ⟨v, own, covered, -⟩ := revoking.cause middle after
      exact .inl (claimed own covered before)
    · obtain ⟨ns, inside, deleted⟩ := lost y before middle
      exact .inr ⟨ns, inside,
        (Change.answeredIn_since_trans silent.grows revokes.grows).2 (.inr deleted)⟩

/-- **Cleaning up takes nothing away that was there before.**  Where the ledger has nothing of what
the platform holds when a teardown begins, nothing that the teardown revokes was held then, whatever
is registered and whatever is refused.  What is lost all the same lies in a namespace that was
deleted. -/
theorem revocations_spare_prior (s : ContextState)
    (apart : Disjoint s.access.ledger.entitlements (held s.access.transcript)) :
    let torn := (c.teardown env s).2.access.transcript
    (∀ r reply v, .exchanged r reply ∈ torn.since s.access.transcript →
      (Change.revoke v).AskedBy r → Disjoint v.covers (held s.access.transcript)) ∧
    ∀ x ∈ held s.access.transcript, x ∉ held torn → ∃ ns : NamespaceId, x ∈ ns.contents ∧
      (Change.delete ns).AnsweredIn true (torn.since s.access.transcript) := by
  obtain ⟨revokes, lost⟩ := revocations_of_teardown K c s
  refine ⟨?_, ?_⟩
  · intro r reply v mem asked
    rw [Set.disjoint_left]
    intro y covered before
    have claimed := revokes _ mem v ⟨r, reply, rfl, asked⟩ y covered before
    exact Set.disjoint_left.1 apart claimed before
  · intro x before after
    exact (lost x before after).resolve_left fun claimed => Set.disjoint_left.1 apart claimed before

end Context

section

open StorePlatform (stubborn)

/-- What it takes to delete a dataset. -/
private def administration : GrantRequest :=
  ⟨.dataset "a" "d", Context.local.adminPrincipal, .ofList [.admin]⟩

/-- Before the dataset is deleted the administrator is listed, and granted what that takes. -/
private theorem administered_by_cleanupEntity {l : Ledger}
    (unknown : l.holds Context.local.adminPrincipal (.dataset "a" "d") .admin = false) :
    (Change.grant administration).AnsweredIn true
      ((Context.local.cleanupEntity (.dataset "a" "d") stubborn.environment
        ⟨[], l⟩).2.transcript.since []) := by
  obtain ⟨t₁, listed, -⟩ := stubborn_lists Context.local.adminPrincipal (t := []) rfl
  obtain ⟨t₂, granted, -⟩ := stubborn_accepts (.grant administration) rfl (by decide) t₁
  have unlisted : OrderedMap.contains StorePlatform.twoNamespaces
      ⟨.dataset "a" "d", .admin⟩ = false := by
    decide
  have acquired : Context.local.access.grantIfMissing Context.local.adminPrincipal
      (.dataset "a" "d") .admin stubborn.environment ⟨[], l⟩ =
        (.ok (), ⟨t₂, l.recordGrant Context.local.adminPrincipal (.dataset "a" "d")
          (.ofList [.admin])⟩) := by
    change AccessModel.local.grantIfMissing _ _ _ _ _ = _
    unfold AccessModel.grantIfMissing
    rw [Program.bind_apply, AccessAct.ledger_apply]
    simp only [unknown, Bool.false_eq_true, if_false, Program.bind_apply, AccessAct.liftM_apply,
      listed, unlisted]
    exact grant_local granted l
  have asked := stubborn.faithful.asked RestClient.local (.grant administration) t₁
  rw [granted] at asked
  cases asked with
  | accepted r sends asked acceptance done =>
    have deleted : Reduced stubborn.held (stubborn.environment.after t₁ r) _ :=
      stubborn.faithful.leads_delete Context.local.admin (Route.dataset ⟨⟨"a"⟩, "d"⟩ []) _
    rw [Context.cleanupEntity_eq]
    simp only [EntityId.deletionPath?]
    unfold Context.cleanup
    rw [Program.bind_apply, acquired]
    have answered := Change.answeredIn_after.2 ⟨asked, acceptance⟩
    refine (Change.answeredIn_since_trans List.nil_suffix deleted.grows).2 (.inr ?_)
    exact (Change.answeredIn_since_trans List.nil_suffix (Environment.suffix_after _ t₁ r)).2
      (.inl answered)

/-- Everybody reads two namespaces all along.  The administrator, who is let administer a dataset to
delete it, is out again, and so is bob, who was let administer a namespace; what they could read is
left to them. -/
theorem Context.revocations_spare_prior_stubborn :
    let s : ContextState :=
      { ContextState.start [] with
        access := ⟨[], Ledger.empty.recordGrant (.user "bob") (.space "a")
          (ActionSet.ofList [.admin])⟩
        namespaces := [⟨"a"⟩], entities := [.dataset "a" "d"] }
    let torn := (Context.local.teardown stubborn.environment s).2.access.transcript
    Disjoint s.access.ledger.entitlements (stubborn.held []) ∧
      (Change.grant ⟨.dataset "a" "d", Context.local.adminPrincipal,
        .ofList [.admin]⟩).AnsweredIn true (torn.since []) ∧
      ∀ r reply v, .exchanged r reply ∈ torn.since [] →
        (Change.revoke v).AskedBy r → Disjoint v.covers (stubborn.held []) := by
  intro s torn
  have K : Keeping stubborn.environment stubborn.held := stubborn.faithful.toKeeping
  have apart : Disjoint s.access.ledger.entitlements (stubborn.held []) := by
    rw [Set.disjoint_left]
    intro x claimed before
    rw [Ledger.empty.entitlements_recordGrant ⟨.space "a", .user "bob", .ofList [.admin]⟩,
      Ledger.entitlements_empty] at claimed
    -- what is recorded is to administer, and what everybody may do is to read
    rcases claimed with impossible | ⟨-, -, administers⟩
    · exact impossible.elim
    · rw [show x.action = .read from before.1] at administers
      exact absurd administers (by decide)
  refine ⟨apart, ?_, (Context.revocations_spare_prior K .local s apart).1⟩
  -- the dataset comes first, and nothing that comes later is taken back from the history
  have entities : Context.local.cleanupEntities s.entities.reverse none stubborn.environment
      s.access = (.ok _, _) := rfl
  obtain ⟨first, s₁, namespaces, later⟩ := Context.local.leads_cleanupNamespaces
    (Context.restrained_cleanupNamespace K .local)
    (fun ns s' _ _ => Context.restrained_recorded ns _) s.namespaces.reverse _ _
  have access := (Context.local.teardown_of_parts entities namespaces).1
  have revokes := Context.local.access.revokes_of_teardown stubborn.environment s₁
  have answered := administered_by_cleanupEntity (l := s.access.ledger) (by decide)
  have same : torn = (Context.local.access.teardown stubborn.environment s₁).2.transcript :=
    congrArg AccessState.transcript access
  rw [same]
  refine (Change.answeredIn_since_trans List.nil_suffix
    (later.silent.grows.trans revokes.grows)).2 (.inr answered)

end

end AccessHarness
