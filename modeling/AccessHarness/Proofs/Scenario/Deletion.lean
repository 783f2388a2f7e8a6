import AccessHarness.Proofs.Access.Approvals
import AccessHarness.Scenario.Context

/-!
# Deleting a namespace through the context

A context keeps three books about what a scenario did: the namespaces to delete, the entities to
delete, and the ledger.  The deletion of a namespace is an entry in all three, or in none.

* `Ledger.grants_recordNamespaceDeleted` — what the ledger lists afterwards.
* `ContextState.SameBooks`, `ContextState.NamespaceGone` — nothing was written, and everything
  was.
* `Context.deleteNamespace_all_or_nothing` — one of the two, told by the answer.

### What is load-bearing

**One request, and its answer decides.**  Nothing is written before the platform has answered,
and nothing that is written afterwards can fail (`Context.deleteNamespace_apply`).  A connection
that breaks leaves the books as they were, also where the platform had carried the request out.

**What lies in a namespace is not the namespace.**  What is granted on the namespace itself
outlives it, like what is granted on a principal of Kerberos, which lies nowhere
(`EntityId.isContainedIn_eq_false`).
-/

namespace AccessHarness

namespace EntityId

/-- What lies in a namespace names it, and is no namespace itself. -/
theorem isContainedIn_eq_false {e : EntityId} {ns : NamespaceId}
    (outside : e.isNamespace = true ∨ e.namespaceId ≠ some ns) : e.isContainedIn ns = false := by
  rw [isContainedIn, Bool.and_eq_false_iff, Bool.not_eq_false', beq_eq_false_iff_ne]
  exact outside

end EntityId

namespace Ledger

/-- **The list of grants loses what lies in the namespace, and nothing else.** -/
theorem grants_recordNamespaceDeleted (l : Ledger) (ns : NamespaceId) :
    (l.recordNamespaceDeleted ns).grants =
      l.grants.filter fun g => !g.entity.isContainedIn ns := by
  unfold grants recordNamespaceDeleted OrderedMap.filter OrderedMap.mapValues OrderedMap.isEmpty
  simp only
  generalize l.byPrincipal.entries = entries
  induction entries with
  | nil => rfl
  | cons x rest ih =>
    obtain ⟨p, held⟩ := x
    rw [List.map_cons, List.flatMap_cons, List.filter_append, List.filter_map, ← ih,
      List.filter_cons]
    -- a principal with nothing left would have listed nothing
    split
    · rw [List.flatMap_cons]
      rfl
    · rename_i nothing
      have left : held.entries.filter (fun y => !y.1.isContainedIn ns) = [] := by
        simpa using nothing
      show _ = List.map _ (held.entries.filter fun y => !y.1.isContainedIn ns) ++ _
      rw [left, List.map_nil, List.nil_append]

end Ledger

namespace ContextState

/-- **Nothing was written**: both registries, the ledger and the clients are what they were. -/
structure SameBooks (s s' : ContextState) : Prop where
  namespaces : s'.namespaces = s.namespaces
  entities : s'.entities = s.entities
  ledger : s'.access.ledger = s.access.ledger
  clients : s'.clients = s.clients

/-- **A namespace left the books, with what lies in it and nothing else.** -/
structure NamespaceGone (ns : NamespaceId) (s s' : ContextState) : Prop where
  gone : ns ∉ s'.namespaces
  /-- No registered entity lies in it. -/
  cleared : ∀ e ∈ s'.entities, e.isContainedIn ns = false
  /-- Nor anything that counts as granted. -/
  voided : ∀ x ∈ s'.access.ledger.entitlements, x.entity.isContainedIn ns = false
  /-- Every other namespace stays registered, in its place. -/
  namespaces : s'.namespaces = s.namespaces.filter fun n => n != ns
  /-- Every entity outside stays registered, in its place. -/
  entities : s'.entities = s.entities.filter fun e => !e.isContainedIn ns
  /-- Every grant outside stays listed, in its place. -/
  grants : s'.access.ledger.grants =
    s.access.ledger.grants.filter fun g => !g.entity.isContainedIn ns
  /-- What any principal has on the namespace itself, on a principal of Kerberos, or outside. -/
  kept : ∀ p e, e = ns.toEntity ∨ (∃ name, e = .kerberosPrincipal name) ∨
      e.namespaceId ≠ some ns →
    s'.access.ledger.written? p e = s.access.ledger.written? p e ∧
      ∀ a, s'.access.ledger.holds p e a = s.access.ledger.holds p e a
  clients : s'.clients = s.clients

/-- It does not matter what else happened before, if nothing of that was written. -/
theorem NamespaceGone.after {ns : NamespaceId} {s s₁ s' : ContextState} (same : s.SameBooks s₁)
    (h : s₁.NamespaceGone ns s') : s.NamespaceGone ns s' where
  gone := h.gone
  cleared := h.cleared
  voided := h.voided
  namespaces := by rw [h.namespaces, same.namespaces]
  entities := by rw [h.entities, same.entities]
  grants := by rw [h.grants, same.ledger]
  kept p e outside := by
    rw [← same.ledger]
    exact h.kept p e outside
  clients := h.clients.trans same.clients

/-- A state without a namespace and what lies in it. -/
def withoutNamespace (ns : NamespaceId) (s : ContextState) : ContextState :=
  { s with
    access := { s.access with ledger := s.access.ledger.recordNamespaceDeleted ns }
    namespaces := s.namespaces.filter fun n => n != ns
    entities := s.entities.filter fun e => !e.isContainedIn ns }

theorem namespaceGone_withoutNamespace (ns : NamespaceId) (s : ContextState) :
    s.NamespaceGone ns (s.withoutNamespace ns) where
  gone listed := by
    have other := (List.mem_filter.1 listed).2
    rw [bne_self_eq_false] at other
    cases other
  cleared e listed := by
    rw [← Bool.not_eq_true']
    exact (List.mem_filter.1 listed).2
  voided x held := by
    have left : x ∈ Change.apply (.delete ns) s.access.ledger.entitlements :=
      (s.access.ledger.entitlements_recordNamespaceDeleted ns).subset held
    exact Bool.eq_false_iff.2 left.2
  namespaces := rfl
  entities := rfl
  grants := s.access.ledger.grants_recordNamespaceDeleted ns
  kept p e outside := by
    have outside : e.isContainedIn ns = false := by
      refine EntityId.isContainedIn_eq_false ?_
      rcases outside with rfl | ⟨name, rfl⟩ | elsewhere
      · exact .inl rfl
      · exact .inr nofun
      · exact .inr elsewhere
    have same : (s.access.ledger.recordNamespaceDeleted ns).written? p e =
        s.access.ledger.written? p e := by
      rw [Ledger.written?_recordNamespaceDeleted, outside, if_neg Bool.false_ne_true]
    refine ⟨same, ?_⟩
    intro a
    show (s.access.ledger.recordNamespaceDeleted ns).holds p e a = _
    rw [Ledger.holds_eq, Ledger.holds_eq, Ledger.actionsOn_eq, Ledger.actionsOn_eq, same]
  clients := rfl

end ContextState

namespace Context

variable (client : RestClient) (ns : NamespaceId) (env : Environment) (s : ContextState)

/-- **One request, and the books after its answer.** -/
theorem deleteNamespace_apply :
    deleteNamespace client ns env s =
      match (Change.delete ns).requestOf client with
      | .error f => (.error f, s)
      | .ok r =>
        let t := env.after s.access.transcript r
        let met : ContextState := { s with access := { s.access with transcript := t } }
        match (env.respond s.access.transcript r).outcome with
        | .error f => (.error f, met)
        | .ok _ => (.ok (), met.withoutNamespace ns) := by
  unfold deleteNamespace
  rw [Program.bind_apply, ContextAct.liftM_session_apply, client.deleteNamespace_apply]
  cases (Change.delete ns).requestOf client with
  | error f => rfl
  | ok r =>
    simp only
    cases (env.respond s.access.transcript r).outcome with
    | error f => rfl
    | ok response => rfl

/-- **Deleting a namespace is all or nothing.**  If it fails, both registries and the ledger are
what they were.  If it succeeds, the namespace and what lies in it are gone from all three, and
everything else is what it was.  It succeeds exactly if the request was sent and accepted. -/
theorem deleteNamespace_all_or_nothing :
    let outcome := (deleteNamespace client ns env s).1
    let s' := (deleteNamespace client ns env s).2
    ((∃ f, outcome = .error f) ∧ s.SameBooks s' ∨
      outcome = .ok () ∧ s.NamespaceGone ns s') ∧
    (outcome = .ok () ↔ ∃ r, (Change.delete ns).requestOf client = .ok r ∧
      (env.respond s.access.transcript r).isAccepted = true) := by
  rw [deleteNamespace_apply]
  cases sent : (Change.delete ns).requestOf client with
  | error f =>
    refine ⟨.inl ⟨⟨f, rfl⟩, ⟨rfl, rfl, rfl, rfl⟩⟩, iff_of_false nofun ?_⟩
    rintro ⟨r, sends, -⟩
    cases sends
  | ok r =>
    have same (r' : Request) : (Except.ok r : Outcome Request) = .ok r' ↔ r' = r := by
      rw [Except.ok.injEq, eq_comm]
    simp only [same, exists_eq_left]
    cases accepted : (env.respond s.access.transcript r).isAccepted with
    | false =>
      obtain ⟨f, refused⟩ := Reply.outcome_of_not_isAccepted accepted
      rw [refused]
      exact ⟨.inl ⟨⟨f, rfl⟩, ⟨rfl, rfl, rfl, rfl⟩⟩, iff_of_false nofun Bool.false_ne_true⟩
    | true =>
      obtain ⟨response, -, taken⟩ := Reply.outcome_of_isAccepted accepted
      rw [taken]
      refine ⟨.inr ⟨rfl, .after ?_ (ContextState.namespaceGone_withoutNamespace ns _)⟩,
        iff_of_true rfl rfl⟩
      exact ⟨rfl, rfl, rfl, rfl⟩

end Context

end AccessHarness
