import AccessHarness.Proofs.Access.Approvals
import AccessHarness.Proofs.Scenario.Calls
import Mathlib.Data.List.Forall2

/-!
# What a teardown deletes

Whatever is registered in a context is deleted when the context is torn down.  To delete something
the administrator may be granted more first; a teardown that succeeds had nothing to report.

* `ContextState.deletions` — what has to be deleted.
* `RestClient.DeletedIn` — the deletion of a thing was asked for and settled, in some stretch.
* `RestClient.Tended` — what becomes of a thing in its turn: it is deleted, or passed over.
* `Context.teardown_deletes_iff` — everything is deleted in its turn, unless something else was
  found missing.
* `Context.teardown_passes_over` — this can happen, and the teardown succeeds all the same.

### What is load-bearing

That something is missing is no failure of a cleanup, and a cleanup does not look at which of its
requests found it missing.  If it is the deletion, there was nothing to delete.  If it is one of
the requests before, the deletion is never asked for.  So a success stands for a deletion only
where all that came before was accepted, and `Program.Approved` says when that is so: an operation
that is let do everything it asks for asks for the deletion next.

**Nothing is hidden in between.**  The requests before a deletion delete nothing, and the teardown
of the access model, which comes last, has no such exception
(`AccessModel.approvals_of_teardown`).  So one look at the whole teardown tells whether anything
was passed over.
-/

namespace AccessHarness

open Program (Accountable Approved)

/-! ### What has to be deleted -/

/-- Where an entity is deleted, if it can be deleted on its own. -/
def EntityId.deletionPath? : EntityId → Option String
  | .dataset ns name => some (Route.dataset ⟨⟨ns⟩, name⟩ [])
  | .stream ns name => some (Route.stream ⟨⟨ns⟩, name⟩ [])
  | .application ns name => some (Route.path ["namespaces", ns, "apps", name])
  | _ => none

/-- Where a namespace is deleted. -/
def NamespaceId.deletionPath (ns : NamespaceId) : String :=
  Route.path ["unrecoverable", "namespaces", ns.name]

/-- **What has to be deleted when a context is torn down**, the last first. -/
def ContextState.deletions (s : ContextState) : List String :=
  s.namespaces.map NamespaceId.deletionPath ++ s.entities.filterMap EntityId.deletionPath?

/-! ### The turn of one thing -/

/-- **The deletion of what is at a path was asked for and settled**: it was carried out, or there
was nothing to delete. -/
def RestClient.DeletedIn (a : RestClient) (path : String) (during : Transcript) : Prop :=
  ∃ r reply, a.request "DELETE" path .empty = .ok r ∧ .exchanged r reply ∈ during ∧
    (reply.isAccepted = true ∨ reply.isMissing = true)

/-- Whether something other than a deletion was asked for and found missing. -/
def Event.isHalt : Event → Bool
  | .exchanged r reply => r.method != "DELETE" && reply.isMissing
  | .slept _ => false

/-- **Something other than a deletion was found missing**, in some stretch of a session. -/
def Transcript.Halted (during : Transcript) : Prop := ∃ x ∈ during, x.isHalt = true

instance (during : Transcript) : Decidable during.Halted :=
  inferInstanceAs (Decidable (∃ x ∈ during, x.isHalt = true))

/-- **What becomes of a thing in its turn**, if nothing is reported. -/
inductive RestClient.Tended (a : RestClient) (path : String) : Transcript → Prop
  /-- Everything before was accepted, and the deletion is settled. -/
  | deleted {r : Request} {reply : Reply} {before : Transcript}
      (prepared : ∀ x ∈ before, x.isApproval = true)
      (asked : a.request "DELETE" path .empty = .ok r)
      (settled : reply.isAccepted = true ∨ reply.isMissing = true) :
      Tended a path (.exchanged r reply :: before)
  /-- Something that had to be done before was found missing, and nothing was deleted. -/
  | passedOver {r : Request} {reply : Reply} {before : Transcript}
      (spared : ∀ x ∈ Event.exchanged r reply :: before, x.isDeletion = false)
      (missing : reply.isMissing = true) : Tended a path (.exchanged r reply :: before)

theorem Transcript.halted_append {first second : Transcript} :
    (second ++ first).Halted ↔ second.Halted ∨ first.Halted := by
  unfold Halted
  simp only [List.mem_append, or_and_right, exists_or]

/-- What is accepted is not missing. -/
theorem Transcript.not_halted_of_approvals {during : Transcript}
    (h : ∀ x ∈ during, x.isApproval = true) : ¬ during.Halted := by
  rintro ⟨x, mem, halt⟩
  cases x with
  | slept d => cases halt
  | exchanged r reply =>
    have accepted : reply.isAccepted = true := h _ mem
    rw [Event.isHalt, (Reply.isRefusal_of_isAccepted accepted).2, Bool.and_false] at halt
    cases halt

namespace RestClient

variable {a : RestClient} {path : String} {turn : Transcript}

theorem not_deletedIn_of_spared (h : ∀ x ∈ turn, x.isDeletion = false) :
    ¬ a.DeletedIn path turn := by
  rintro ⟨r, reply, asked, mem, -⟩
  have spared := h _ mem
  simp [Event.isDeletion, (request_eq_ok asked).1] at spared

/-- **In its turn a thing is deleted unless something else was found missing.** -/
theorem Tended.deletedIn_iff (h : a.Tended path turn) : a.DeletedIn path turn ↔ ¬ turn.Halted := by
  cases h with
  | deleted prepared asked settled =>
    rename_i r reply before
    refine iff_of_true ⟨r, reply, asked, List.mem_cons_self, settled⟩ ?_
    rintro ⟨x, mem, halt⟩
    rcases List.mem_cons.1 mem with rfl | mem
    · simp [Event.isHalt, (request_eq_ok asked).1] at halt
    · exact Transcript.not_halted_of_approvals prepared ⟨x, mem, halt⟩
  | passedOver spared missing =>
    rename_i r reply before
    refine iff_of_false (not_deletedIn_of_spared spared) (not_not_intro ?_)
    refine ⟨_, List.mem_cons_self, ?_⟩
    have other := spared _ List.mem_cons_self
    simpa [Event.isHalt, missing, Event.isDeletion] using other

/-- What was deleted in one of several turns. -/
theorem DeletedIn.mono {during during' : Transcript} (h : a.DeletedIn path during)
    (sub : during ⊆ during') : a.DeletedIn path during' := by
  obtain ⟨r, reply, asked, mem, settled⟩ := h
  exact ⟨r, reply, asked, sub mem, settled⟩

/-- **All are deleted in their turns, or something else was found missing.** -/
theorem forall₂_deletedIn_iff {paths : List String} {turns : List Transcript}
    (h : List.Forall₂ a.Tended paths turns) :
    List.Forall₂ a.DeletedIn paths turns ↔ ¬ Transcript.Halted turns.flatten := by
  induction h with
  | nil => exact iff_of_true .nil (Transcript.not_halted_of_approvals (List.forall_mem_nil _))
  | cons tended _ ih =>
    rw [List.forall₂_cons, List.flatten_cons, Transcript.halted_append, not_or, ih,
      tended.deletedIn_iff]

/-- What is deleted in its turn is deleted. -/
theorem deletedIn_flatten {paths : List String} {turns : List Transcript}
    (h : List.Forall₂ a.DeletedIn paths turns) :
    ∀ path ∈ paths, a.DeletedIn path turns.flatten := by
  induction h with
  | nil => exact List.forall_mem_nil _
  | cons deleted _ ih =>
    intro path mem
    rw [List.flatten_cons]
    rcases List.mem_cons.1 mem with rfl | mem
    · exact deleted.mono (List.subset_append_left _ _)
    · exact (ih path mem).mono (List.subset_append_right _ _)

variable (a) in
/-- **Things have their turns one after the other**, the last first. -/
def TendedInTurn (paths : List String) (t t' : Transcript) : Prop :=
  ∃ turns : List Transcript, t' = turns.flatten ++ t ∧ List.Forall₂ a.Tended paths turns

namespace TendedInTurn

variable {paths paths' : List String} {t t₁ t₂ : Transcript}

theorem nil : a.TendedInTurn [] t t := ⟨[], rfl, .nil⟩

theorem one (h : a.Tended path turn) : a.TendedInTurn [path] t (turn ++ t) :=
  ⟨[turn], by rw [List.flatten_singleton], .cons h .nil⟩

theorem append (h : a.TendedInTurn paths t t₁) (h' : a.TendedInTurn paths' t₁ t₂) :
    a.TendedInTurn (paths' ++ paths) t t₂ := by
  obtain ⟨turns, rfl, tended⟩ := h
  obtain ⟨turns', rfl, tended'⟩ := h'
  exact ⟨turns' ++ turns, by rw [List.flatten_append, List.append_assoc],
    List.rel_append tended' tended⟩

end TendedInTurn

end RestClient

/-- **A deletion that does not fail, or fails because there is nothing to delete**, was asked
for and is settled. -/
theorem RestClient.exists_settled_of_delete {env : Environment} (a : RestClient) (path : String)
    (t : Transcript)
    (settled : ∀ f, (a.delete path env t).1 = .error f → f.isNotFound = true) :
    ∃ r, a.request "DELETE" path .empty = .ok r ∧ (a.delete path env t).2 = env.after t r ∧
      ((env.respond t r).isAccepted = true ∨ (env.respond t r).isMissing = true) := by
  rw [delete_apply] at settled ⊢
  cases sent : a.request "DELETE" path .empty with
  | error f =>
    rw [sent] at settled
    have missing := settled f rfl
    rw [(a.isMute_of_request sent).2] at missing
    cases missing
  | ok r =>
    rw [sent] at settled
    refine ⟨r, rfl, rfl, ?_⟩
    cases outcome : (env.respond t r).outcome with
    | ok response => exact .inl (Reply.isAccepted_of_outcome outcome)
    | error f =>
      simp only [outcome] at settled
      exact .inr ((Reply.fault_of_outcome outcome).2.symm.trans (settled f rfl))

namespace Context

variable {env : Environment} (c : Context)

/-- No failure is kept of a cleanup that ends well or finds something missing. -/
theorem firstFailure_eq_none {first : Option Fault} {o : Outcome Unit}
    (h : firstFailure first o = none) :
    first = none ∧ ∀ f, o = .error f → f.isNotFound = true := by
  cases o with
  | ok u => exact ⟨h, nofun⟩
  | error f =>
    simp only [firstFailure] at h
    by_cases missing : f.isNotFound = true
    · rw [if_pos missing] at h
      refine ⟨h, ?_⟩
      intro f' same
      cases same
      exact missing
    · rw [if_neg missing] at h
      cases (AccessModel.firstFailure_eq_none h).2

/-- Delete what is at a path as the administrator, who is granted what that takes. -/
def cleanup (e : EntityId) (path : String) : AccessAct Unit := do
  c.access.grantIfMissing c.adminPrincipal e .admin
  c.admin.delete path

/-- Entities and namespaces are cleaned up in the same way. -/
theorem cleanupEntity_eq (e : EntityId) :
    c.cleanupEntity e = match e.deletionPath? with
      | some path => c.cleanup e path
      | none => pure () := by
  cases e <;> rfl

theorem cleanupNamespace_eq (ns : NamespaceId) :
    c.cleanupNamespace ns = c.cleanup ns.toEntity ns.deletionPath := rfl

/-- **A cleanup that ends well, or because something is missing**, is a turn. -/
theorem tendedInTurn_cleanup (e : EntityId) (path : String) (s : AccessState)
    (settled : ∀ f, (c.cleanup e path env s).1 = .error f → f.isNotFound = true) :
    c.admin.TendedInTurn [path] s.transcript (c.cleanup e path env s).2.transcript := by
  have prepares : Approved AccessState.transcript env
      (c.access.grantIfMissing c.adminPrincipal e .admin) := c.access.approved_grantIfMissing _ e _
  have accounts : Accountable AccessState.transcript env
      (c.access.grantIfMissing c.adminPrincipal e .admin) :=
    c.access.accountable_grantIfMissing _ e _
  have spared := prepares.spares s
  have approved := prepares.approved s
  have borneOut := accounts.borneOut s
  unfold cleanup at settled ⊢
  rw [Program.bind_apply] at settled ⊢
  generalize c.access.grantIfMissing c.adminPrincipal e .admin env s = out
    at settled spared approved borneOut ⊢
  obtain ⟨f | u, s₁⟩ := out
  · -- the fault is that of the last answer, and no deletion was asked for
    obtain ⟨t, r, before, last, -, missing⟩ := borneOut f rfl (.inr (settled f rfl))
    obtain ⟨during, grown⟩ := before.suffix
    have whole : s₁.transcript = (.exchanged r (env.respond t r) :: during) ++ s.transcript := by
      rw [last, ← grown]
      rfl
    have within : Transcript.ExtendsWithin _ s.transcript s₁.transcript := spared
    rw [whole, Transcript.extendsWithin_append] at within
    simp only
    rw [whole]
    exact .one (.passedOver within (missing.symm.trans (settled f rfl)))
  · -- everything was accepted so far, so the deletion is asked for next
    obtain ⟨⟨during, grown⟩, accepted⟩ := approved u rfl
    obtain ⟨r, asked, after, answered⟩ :=
      c.admin.exists_settled_of_delete path s₁.transcript settled
    simp only [AccessAct.liftM_apply] at grown accepted ⊢
    rw [← grown, Transcript.since_append] at accepted
    have turn : c.admin.TendedInTurn [path] s.transcript
        ((.exchanged r (env.respond s₁.transcript r) :: during) ++ s.transcript) :=
      .one (.deleted accepted asked answered)
    rw [List.cons_append, grown] at turn
    rw [after]
    exact turn

/-- **Entities have their turns**, unless a failure is kept. -/
theorem tendedInTurn_cleanupEntities (es : List EntityId) (first : Option Fault)
    (s : AccessState) (ended : (c.cleanupEntities es first env s).1 = .ok none) :
    first = none ∧ c.admin.TendedInTurn (es.reverse.filterMap EntityId.deletionPath?)
      s.transcript (c.cleanupEntities es first env s).2.transcript := by
  induction es generalizing first s with
  | nil => exact ⟨Except.ok.inj ended, .nil⟩
  | cons e rest ih =>
    unfold cleanupEntities at ended ⊢
    rw [Program.bind_apply, AccessAct.attempt_apply] at ended ⊢
    obtain ⟨kept, later⟩ := ih _ _ ended
    obtain ⟨none, settled⟩ := firstFailure_eq_none kept
    rw [List.reverse_cons, List.filterMap_append]
    refine ⟨none, .append ?_ later⟩
    rw [cleanupEntity_eq] at settled ⊢
    cases path : e.deletionPath? with
    | none =>
      rw [List.filterMap_cons_none path]
      exact .nil
    | some path' =>
      rw [path] at settled
      rw [List.filterMap_cons_some path]
      exact tendedInTurn_cleanup c e path' s settled

/-- So have namespaces; what is recorded in between is no part of the history. -/
theorem tendedInTurn_cleanupNamespaces (nss : List NamespaceId) (first : Option Fault)
    (s : AccessState) (ended : (c.cleanupNamespaces nss first env s).1 = .ok none) :
    first = none ∧ c.admin.TendedInTurn (nss.reverse.map NamespaceId.deletionPath)
      s.transcript (c.cleanupNamespaces nss first env s).2.transcript := by
  induction nss generalizing first s with
  | nil => exact ⟨Except.ok.inj ended, .nil⟩
  | cons ns rest ih =>
    have turn (settled : ∀ f, (c.cleanupNamespace ns env s).1 = .error f → f.isNotFound = true) :
        c.admin.TendedInTurn [ns.deletionPath] s.transcript
          (c.cleanupNamespace ns env s).2.transcript := by
      rw [cleanupNamespace_eq] at settled ⊢
      exact tendedInTurn_cleanup c ns.toEntity ns.deletionPath s settled
    unfold cleanupNamespaces at ended ⊢
    rw [Program.bind_apply, AccessAct.attempt_apply] at ended ⊢
    rw [List.reverse_cons, List.map_append]
    generalize c.cleanupNamespace ns env s = out at turn ended ⊢
    obtain ⟨f | u, s₁⟩ := out
    · obtain ⟨kept, later⟩ := ih (firstFailure first (.error f)) s₁ ended
      obtain ⟨none, settled⟩ := firstFailure_eq_none kept
      exact ⟨none, .append (turn settled) later⟩
    · obtain ⟨none, later⟩ := ih first
        { s₁ with ledger := s₁.ledger.recordNamespaceDeleted ns } ended
      exact ⟨none, .append (turn nofun) later⟩

/-- **A teardown that succeeds gave everything its turn**; what it did after that was accepted. -/
theorem tendedInTurn_teardown (s : ContextState) (ok : (c.teardown env s).1 = .ok ()) :
    ∃ mid, c.admin.TendedInTurn s.deletions s.access.transcript mid ∧
      Transcript.ExtendsWithin (fun x => x.isApproval = true) mid
        (c.teardown env s).2.access.transcript := by
  have entities (ended : (c.cleanupEntities s.entities.reverse none env s.access).1 = .ok none) :=
    (tendedInTurn_cleanupEntities c s.entities.reverse none s.access ended).2
  unfold teardown at ok ⊢
  simp only [Program.bind_apply, ContextAct.state_apply, ContextAct.update_apply,
    ContextAct.liftM_apply] at ok ⊢
  generalize c.cleanupEntities s.entities.reverse none env s.access = out at ok entities ⊢
  obtain ⟨f | first, s₁⟩ := out
  · cases ok
  have namespaces (ended : (c.cleanupNamespaces s.namespaces.reverse first env s₁).1 = .ok none) :=
    tendedInTurn_cleanupNamespaces c s.namespaces.reverse first s₁ ended
  simp only at ok ⊢
  generalize c.cleanupNamespaces s.namespaces.reverse first env s₁ = out at ok namespaces ⊢
  obtain ⟨f | first', s₂⟩ := out
  · cases ok
  have revoked (ended : (c.access.teardown env s₂).1 = .ok ()) :=
    c.access.approvals_of_teardown s₂ ended
  simp only [AccessAct.attempt_apply] at ok ⊢
  cases reported : AccessModel.firstFailure first' (c.access.teardown env s₂).1 with
  | some f =>
    rw [reported] at ok
    cases ok
  | none =>
    -- no failure was kept in the end, so none was kept before
    obtain ⟨rfl, ended⟩ := AccessModel.firstFailure_eq_none reported
    obtain ⟨rfl, later⟩ := namespaces rfl
    have turns := (entities rfl).append later
    rw [List.reverse_reverse, List.reverse_reverse] at turns
    exact ⟨s₂.transcript, turns, revoked ended⟩

/-- **What a teardown that succeeds has deleted.**  Everything that was registered had its turn,
and was deleted or passed over.  It was deleted throughout exactly if nothing but a deletion was
found missing. -/
theorem teardown_deletes_iff (s : ContextState) (ok : (c.teardown env s).1 = .ok ()) :
    let during := (c.teardown env s).2.access.transcript.since s.access.transcript
    ∃ (turns : List Transcript) (rest : Transcript), during = rest ++ turns.flatten ∧
      List.Forall₂ c.admin.Tended s.deletions turns ∧
      (List.Forall₂ c.admin.DeletedIn s.deletions turns ↔ ¬ during.Halted) ∧
      (¬ during.Halted → ∀ path ∈ s.deletions, c.admin.DeletedIn path during) := by
  intro during
  obtain ⟨mid, ⟨turns, rfl, tended⟩, ⟨rest, grown⟩, accepted⟩ := tendedInTurn_teardown c s ok
  rw [← grown, Transcript.since_append] at accepted
  have whole : during = rest ++ turns.flatten := by
    show Transcript.since _ _ = _
    rw [← grown, ← List.append_assoc, Transcript.since_append]
  have deleted : List.Forall₂ c.admin.DeletedIn s.deletions turns ↔ ¬ during.Halted := by
    rw [whole, Transcript.halted_append, RestClient.forall₂_deletedIn_iff tended]
    rw [or_iff_right (Transcript.not_halted_of_approvals accepted)]
  refine ⟨turns, rest, whole, tended, deleted, ?_⟩
  intro unhalted path mem
  have settled := RestClient.deletedIn_flatten (deleted.2 unhalted) path mem
  rw [whole]
  exact settled.mono (List.subset_append_right _ _)

end Context

/-- A dataset and its namespace are deleted by an administrator who is granted what it takes. -/
theorem Context.teardown_deletes_iff_accepting :
    let env : Environment := .replying fun _ _ => .answered ⟨200, "[]"⟩
    let s : ContextState :=
      { ContextState.start [] with namespaces := [⟨"a"⟩], entities := [.dataset "a" "d"] }
    (Context.local.teardown env s).1 = .ok () ∧ ∀ path ∈ s.deletions,
      Context.local.admin.DeletedIn path
        ((Context.local.teardown env s).2.access.transcript.since s.access.transcript) := by
  intro env s
  have ok : (Context.local.teardown env s).1 = .ok () := by
    decide +kernel
  obtain ⟨turns, rest, -, -, -, deleted⟩ := Context.teardown_deletes_iff .local s ok
  refine ⟨ok, deleted ?_⟩
  decide +kernel

/-- **A teardown can pass over what is registered**: the platform knows nothing about the
administrator, and the dataset is not deleted. -/
theorem Context.teardown_passes_over :
    let env : Environment :=
      .replying fun _ r => if r.method = "GET" then .answered ⟨404, ""⟩ else .answered ⟨200, ""⟩
    let s := (Context.registerEntity (.dataset "a" "d") env (.start [])).2
    (Context.local.teardown env s).1 = .ok () ∧ ∃ path ∈ s.deletions,
      ¬ Context.local.admin.DeletedIn path
        ((Context.local.teardown env s).2.access.transcript.since s.access.transcript) := by
  intro env s
  have ok : (Context.local.teardown env s).1 = .ok () := by
    decide +kernel
  have registered : s.deletions = [Route.dataset ⟨⟨"a"⟩, "d"⟩ []] := rfl
  rw [registered]
  refine ⟨ok, _, List.mem_cons_self, RestClient.not_deletedIn_of_spared ?_⟩
  decide +kernel

end AccessHarness
