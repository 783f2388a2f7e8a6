import AccessHarness.Proofs.Access.Plans
import AccessHarness.Proofs.Access.Refreshes
import AccessHarness.Proofs.Scenario.Order

/-!
# Series of changes, request by request

Granting a plan and tearing everything down both send one request after the other.  The first stops
at the first grant that comes to nothing, the second stops at nothing; in both cases what was sent
is a list of requests, in the order of the entries they are for.

* `Environment.afterAll`, `Environment.answers` — the history after a list of requests, and what
  they were answered.
* `AccessModel.teardown_exhaustive` — a teardown revokes every recorded grant and refreshes once.
* `AccessModel.GrantFails` — a grant that comes to nothing.
* `Context.grantAll_entity_by_entity` — how far a plan is carried out, and what is recorded of it.

### What is load-bearing

**A series is told by its requests.**  The environment answers a request by what happened before
it, so the requests determine the answers, and these the outcomes.  `OneByOne` has a state between
any two steps; here the states are gone (`OneByOne.exists_requests`).

**What was accepted is a prefix of the plan**, and nothing is recorded but that prefix
(`AccessModel.exists_issueGrants`).  The entry behind the prefix is the one that came to nothing:
either no request for it could be made, or its request is the last thing that happened.
-/

namespace AccessHarness

open Program (Leads Approved)
open Ranked (Before)

/-! ### Requests in a row -/

namespace Environment

variable (env : Environment)

/-- What happened after some requests were sent, one after the other. -/
def afterAll (t : Transcript) (requests : List Request) : Transcript := requests.foldl env.after t

/-- What they were answered. -/
def answers : Transcript → List Request → List Reply
  | _, [] => []
  | t, r :: rest => env.respond t r :: answers (env.after t r) rest

@[simp] theorem afterAll_nil (t : Transcript) : env.afterAll t [] = t := rfl

@[simp] theorem afterAll_cons (t : Transcript) (r : Request) (rest : List Request) :
    env.afterAll t (r :: rest) = env.afterAll (env.after t r) rest := rfl

@[simp] theorem answers_nil (t : Transcript) : env.answers t [] = [] := rfl

@[simp] theorem answers_cons (t : Transcript) (r : Request) (rest : List Request) :
    env.answers t (r :: rest) = env.respond t r :: env.answers (env.after t r) rest := rfl

/-- **Nothing else happens**: a request with its answer, then the next one. -/
theorem afterAll_eq (t : Transcript) (requests : List Request) :
    env.afterAll t requests =
      (List.zipWith Event.exchanged requests (env.answers t requests)).reverse ++ t := by
  induction requests generalizing t with
  | nil => rfl
  | cons r rest ih =>
    rw [afterAll_cons, ih, answers_cons, List.zipWith_cons_cons, List.reverse_cons,
      List.append_assoc]
    rfl

end Environment

/-! ### Everything that was granted -/

/-- **A series of revocations is told by its requests.** -/
theorem OneByOne.exists_requests {m : AccessModel} {env : Environment} {gs : List Grant}
    {s s' : AccessState} {os : List (Outcome Unit)}
    (h : OneByOne (m.RevokeTurn env) gs s os s') :
    ∃ requests, List.Forall₂ (fun (g : Grant) r =>
        (Change.revoke g.revocation).requestOf m.admin = .ok r) gs requests ∧
      s'.transcript = env.afterAll s.transcript requests ∧
      os = (env.answers s.transcript requests).map Reply.consent := by
  induction h with
  | nil s => exact ⟨[], .nil, rfl, rfl⟩
  | cons first _ ih =>
    obtain ⟨r, request, rfl, rfl⟩ := first
    obtain ⟨requests, sent, happened, rfl⟩ := ih
    exact ⟨r :: requests, .cons request sent, happened, rfl⟩

namespace AccessModel

/-- **A teardown is exhaustive.**  A client with a web address and a token that can stand in a
header asks for the revocation of every recorded grant, in the order of the ledger and with exactly
its actions, whatever is answered; then it refreshes once.  The outcome is the first fault of all
that, and the ledger is empty.  (The path of a web address that was read is rooted:
`Url.path_of_parse?`.) -/
theorem teardown_exhaustive (m : AccessModel) (web : m.admin.base.isWeb = true)
    (rooted : ∃ l, m.admin.base.path = .rooted l)
    (valid : ∀ token, m.admin.token = some token → Header.isValue token = true)
    (env : Environment) (s : AccessState) :
    ∃ requests,
      List.Forall₂ (fun (g : Grant) r =>
        (Change.revoke ⟨g.entity, some g.principal, some g.actions⟩).requestOf m.admin = .ok r)
        s.ledger.grants requests ∧
      let t := env.afterAll s.transcript requests
      let outcomes := (env.answers s.transcript requests).map Reply.consent ++ [(m.refresh env t).1]
      m.teardown env s =
          (outcomeOf (outcomes.findSome? failureOf), ⟨(m.refresh env t).2, Ledger.empty⟩) ∧
        ((m.teardown env s).1 = .ok () ↔ ∀ o ∈ outcomes, o = .ok ()) ∧
        (m.policy = .manual → (m.teardown env s).2.transcript = t) ∧
        (m.policy ≠ .manual →
          (∃ y, m.Refreshes y ∧ (m.teardown env s).2.transcript = y :: t) ∨
            ¬ m.CanRefresh ∧ (m.teardown env s).2.transcript = t) := by
  obtain ⟨os, s', series, run⟩ := m.exists_teardown env ⟨web, rooted, valid⟩ s
  obtain ⟨requests, sent, happened, rfl⟩ := series.exists_requests
  rw [happened] at run
  refine ⟨requests, sent, run, ?_, ?_, ?_⟩
  · rw [run]
    exact outcomeOf_findSome?_eq_ok_iff
  · intro manual
    rw [run]
    unfold refresh
    rw [manual]
    rfl
  · intro refreshing
    rw [run]
    exact m.refresh_cases refreshing env _

/-- Two grants are taken back where only the first request is granted: the second revocation is
declined, and so is the refresh, but both are asked for. -/
theorem teardown_exhaustive_declined :
    let m := AccessModel.invalidating
    let s : AccessState := ⟨[], (Ledger.empty.recordGrant (.user "bob") (.space "a")
      (.ofList [.read])).recordGrant (.user "bob") (.space "b") (.ofList [.admin])⟩
    let torn := m.teardown .onceOnly s
    (m.admin.base.isWeb = true ∧ (∃ l, m.admin.base.path = .rooted l) ∧
      ∀ token, m.admin.token = some token → Header.isValue token = true) ∧
    torn.1 ≠ .ok () ∧ torn.2.ledger = Ledger.empty ∧ torn.2.transcript.length = 3 := by
  intro m s torn
  have able : m.admin.CanSend := RestClient.canSend_local
  refine ⟨able, ?_⟩
  obtain ⟨requests, sent, run, ended, -, refreshed⟩ :=
    m.teardown_exhaustive able.1 able.2.1 able.2.2 .onceOnly s
  have granted : s.ledger.grants = [⟨.user "bob", .space "a", .ofList [.read]⟩,
      ⟨.user "bob", .space "b", .ofList [.admin]⟩] := by
    decide
  rw [granted, List.forall₂_cons_left_iff] at sent
  obtain ⟨r, others, -, later, rfl⟩ := sent
  obtain ⟨r', none, -, last, rfl⟩ := List.forall₂_cons_left_iff.1 later
  obtain rfl := List.forall₂_nil_left_iff.1 last
  refine ⟨?_, congrArg (fun x => x.2.ledger) run, ?_⟩
  · intro ok
    have consents := ended.1 ok (Reply.consent (.answered ⟨403, "no"⟩))
      (List.mem_append_left _ (List.mem_cons_of_mem _ List.mem_cons_self))
    rw [Reply.consent_eq_ok_iff] at consents
    revert consents
    decide
  · rcases refreshed nofun with ⟨y, -, happened⟩ | ⟨mute, -⟩
    · rw [happened]
      rfl
    · have able : AccessModel.invalidating.CanRefresh := fun _ => ⟨_, rfl⟩
      exact absurd able mute

end AccessModel

/-! ### Entity by entity -/

/-- **What a ledger holds after a list was recorded**: what it held, and what the list gives. -/
theorem Ledger.holds_recordAll (l : Ledger) (p : Principal) (given : List (EntityId × ActionSet))
    (q : Principal) (e : EntityId) (a : Action) :
    (l.recordAll p given).holds q e a = true ↔
      l.holds q e a = true ∨ q = p ∧ ∃ x ∈ given, x.1 = e ∧ x.2.contains a = true := by
  induction given generalizing l with
  | nil => simp
  | cons x rest ih =>
    have first : (l.recordGrant p x.1 x.2).holds q e a = true ↔
        l.holds q e a = true ∨ q = p ∧ e = x.1 ∧ x.2.contains a = true :=
      Set.ext_iff.1 (l.entitlements_recordGrant ⟨x.1, p, x.2⟩) ⟨q, e, a⟩
    rw [recordAll_cons, ih, first, List.exists_mem_cons_iff, eq_comm (a := e), or_assoc,
      ← and_or_left]

namespace AccessModel

/-- **A grant that comes to nothing**: it cannot be sent, or it is declined. -/
inductive GrantFails (m : AccessModel) (p : Principal) (env : Environment)
    (x : EntityId × ActionSet) (s : AccessState) (f : Fault) : AccessState → Prop
  | unsent (mute : (Change.grant ⟨x.1, p, x.2⟩).requestOf m.admin = .error f) :
      GrantFails m p env x s f s
  | declined (r : Request) (request : (Change.grant ⟨x.1, p, x.2⟩).requestOf m.admin = .ok r)
      (answer : (env.respond s.transcript r).consent = .error f) :
      GrantFails m p env x s f { s with transcript := env.after s.transcript r }

section

variable (m : AccessModel) (p : Principal) (env : Environment)

/-- **One grant** is accepted and recorded, or comes to nothing. -/
theorem issueGrant_cases (x : EntityId × ActionSet) (s : AccessState) :
    (∃ r, (Change.grant ⟨x.1, p, x.2⟩).requestOf m.admin = .ok r ∧
      (env.respond s.transcript r).Consents ∧
      m.issueGrant p x.1 x.2 env s =
        (.ok (), ⟨env.after s.transcript r, s.ledger.recordGrant p x.1 x.2⟩)) ∨
    ∃ f s', m.GrantFails p env x s f s' ∧ m.issueGrant p x.1 x.2 env s = (.error f, s') := by
  rw [issueGrant_eq, Program.bind_apply, AccessAct.liftM_apply, m.admin.ask_apply rfl]
  cases request : (Change.grant ⟨x.1, p, x.2⟩).requestOf m.admin with
  | error f => exact .inr ⟨f, s, .unsent request, rfl⟩
  | ok r =>
    simp only
    cases answer : (env.respond s.transcript r).consent with
    | error f => exact .inr ⟨f, _, .declined r request answer, rfl⟩
    | ok u => exact .inl ⟨r, rfl, Reply.consent_eq_ok_iff.1 answer, rfl⟩

/-- **What is granted of a list is a prefix of it.** -/
theorem exists_issueGrants (given : List (EntityId × ActionSet)) (s : AccessState) :
    ∃ done rest requests, given = done ++ rest ∧
      List.Forall₂ (fun (x : EntityId × ActionSet) r =>
        (Change.grant ⟨x.1, p, x.2⟩).requestOf m.admin = .ok r) done requests ∧
      (∀ reply ∈ env.answers s.transcript requests, reply.Consents) ∧
      let reached : AccessState :=
        ⟨env.afterAll s.transcript requests, s.ledger.recordAll p done⟩
      match rest with
      | [] => m.issueGrants p given env s = (.ok (), reached)
      | x :: _ => ∃ f s', m.GrantFails p env x reached f s' ∧
          m.issueGrants p given env s = (.error f, s') := by
  induction given generalizing s with
  | nil => exact ⟨[], [], [], rfl, .nil, List.forall_mem_nil _, rfl⟩
  | cons x given ih =>
    rw [issueGrants_cons, Program.bind_apply]
    rcases m.issueGrant_cases p env x s with ⟨r, request, consents, run⟩ | ⟨f, s', fails, run⟩
    · -- the first is granted, and it stands in front of what is granted of the others
      rw [run]
      obtain ⟨done, rest, requests, rfl, sent, accepted, ended⟩ :=
        ih ⟨env.after s.transcript r, s.ledger.recordGrant p x.1 x.2⟩
      refine ⟨x :: done, rest, r :: requests, rfl, .cons request sent, ?_, ended⟩
      exact List.forall_mem_cons.2 ⟨consents, accepted⟩
    · rw [run]
      exact ⟨[], x :: given, [], rfl, .nil, List.forall_mem_nil _, f, s', fails, rfl⟩

theorem approved_grantAll (plan : PrivilegePlan) :
    Approved AccessState.transcript env (m.grantAll p plan) := by
  have granted (g : GrantRequest) : Approved id env (m.admin.grantPrivileges g) :=
    .bind (m.admin.approved_postJson _ _ _) fun _ => .pure _
  have issued (given : List (EntityId × ActionSet)) :
      Approved AccessState.transcript env (m.issueGrants p given) := by
    induction given with
    | nil => exact .pure ()
    | cons x rest ih =>
      exact .bind (.bind (AccessAct.approved_liftM (granted _)) fun _ =>
        AccessAct.approved_record _) fun _ => ih
  exact .bind (issued _) fun _ =>
    .bind (AccessAct.approved_liftM m.approved_refresh) fun _ => .pure _

end

section

variable {m : AccessModel} {p : Principal} {env : Environment}

/-- A grant that nothing was declined of is recorded, whatever came of the refresh. -/
theorem ledger_grant (sends : m.admin.CanSend) (x : EntityId × List Action) (s : AccessState)
    (accepted : ∀ y ∈ (m.grant p x.1 x.2 env s).2.transcript.since s.transcript, ¬ y.Declined) :
    (m.grant p x.1 x.2 env s).2.ledger =
      s.ledger.recordGrant p x.1 (ActionSet.ofList x.2) := by
  unfold grant at accepted ⊢
  rw [Program.bind_apply] at accepted ⊢
  rcases m.issueGrant_cases p env (x.1, ActionSet.ofList x.2) s with
    ⟨r, request, consents, run⟩ | ⟨f, s', fails, run⟩ <;>
    rw [run] at accepted ⊢
  · rfl
  · cases fails with
    | unsent mute =>
      obtain ⟨r, request⟩ := (RestClient.exists_requestOf_iff (.grant _)).2 sends
      rw [mute] at request
      cases request
    | declined r request answer =>
      refine absurd ⟨.grant _, r, _, rfl, ⟨m.admin, request⟩, rfl,
        Reply.not_consents_of_consent answer⟩ (accepted _ ?_)
      show _ ∈ (env.after s.transcript r).since s.transcript
      rw [env.since_after]
      exact List.mem_cons_self

/-- **Grants one by one, none of them declined, are all recorded.** -/
theorem ledger_after_grants (sends : m.admin.CanSend) (steps : List (EntityId × List Action))
    (s : AccessState) (accepted : ∀ x ∈ (m.after env
      (steps.map fun x => .grant p x.1 x.2) s).transcript.since s.transcript, ¬ x.Declined) :
    (m.after env (steps.map fun x => .grant p x.1 x.2) s).ledger =
      s.ledger.recordAll p (PrivilegePlan.given steps) := by
  induction steps generalizing s with
  | nil => rfl
  | cons x rest ih =>
    let s₁ := (m.grant p x.1 x.2 env s).2
    let s₂ := m.after env (rest.map fun x => .grant p x.1 x.2) s₁
    have first : env.Continues s.transcript s₁.transcript :=
      (m.accountable_grant p x.1 x.2).onward s
    have later : env.Continues s₁.transcript s₂.transcript := by
      refine Leads.inTurn (R := InvImage env.Continues AccessState.transcript) ?_ s₁
      intro call mem
      simp only [List.map_map, List.mem_map] at mem
      obtain ⟨y, -, rfl⟩ := mem
      exact (m.accountable_grant p y.1 y.2).onward
    have accepted : ∀ y ∈ s₂.transcript.since s.transcript, ¬ y.Declined := accepted
    rw [Transcript.since_trans first.suffix later.suffix, List.forall_mem_append] at accepted
    obtain ⟨acceptedLater, acceptedFirst⟩ := accepted
    calc s₂.ledger = s₁.ledger.recordAll p (PrivilegePlan.given rest) := ih s₁ acceptedLater
      _ = (s.ledger.recordGrant p x.1 (ActionSet.ofList x.2)).recordAll p
          (PrivilegePlan.given rest) := by rw [ledger_grant sends x s acceptedFirst]

/-- **A plan and its steps come to the same ledger**, where all of both was accepted. -/
theorem ledger_after_steps {steps steps' : List (EntityId × List Action)}
    (same : steps'.Perm steps) {requests : List Request}
    (sent : List.Forall₂ (fun (x : EntityId × ActionSet) r =>
      (Change.grant ⟨x.1, p, x.2⟩).requestOf m.admin = .ok r)
      (PrivilegePlan.ofSteps steps).toList requests) (s : AccessState)
    (accepted : ∀ x ∈ (m.after env
      (steps'.map fun x => .grant p x.1 x.2) s).transcript.since s.transcript, ¬ x.Declined) :
    (m.after env (steps'.map fun x => .grant p x.1 x.2) s).ledger =
      s.ledger.recordAll p (PrivilegePlan.ofSteps steps).toList := by
  rw [Ledger.recordAll_ofSteps s.ledger p same.symm]
  cases steps' with
  | nil => rfl
  | cons x rest =>
    -- something was planned, so something could be sent
    have planned : (PrivilegePlan.ofSteps steps).toList ≠ [] := by
      rw [PrivilegePlan.ofSteps_perm same.symm, PrivilegePlan.toList,
        PrivilegePlan.entries_ofSteps, Ne, (Holdings.saysSame_entries _).eq_nil_iff]
      exact List.cons_ne_nil _ _
    have sends : m.admin.CanSend := by
      obtain ⟨entry, others, planned⟩ := List.exists_cons_of_ne_nil planned
      rw [planned] at sent
      obtain ⟨r, later, request, -, -⟩ := List.forall₂_cons_left_iff.1 sent
      exact (RestClient.exists_requestOf_iff _).1 ⟨r, request⟩
    exact ledger_after_grants sends (x :: rest) s accepted

/-- **How far a plan is carried out**: up to the first entry that comes to nothing, or to its end
and the refresh. -/
theorem exists_grantAll (m : AccessModel) (p : Principal) (env : Environment)
    (plan : PrivilegePlan) (s : AccessState) :
    ∃ done rest requests, plan.toList = done ++ rest ∧
      List.Forall₂ (fun (x : EntityId × ActionSet) r =>
        (Change.grant ⟨x.1, p, x.2⟩).requestOf m.admin = .ok r) done requests ∧
      (∀ reply ∈ env.answers s.transcript requests, reply.Consents) ∧
      let t := env.afterAll s.transcript requests
      let ledger := s.ledger.recordAll p done
      match rest with
      | [] => m.grantAll p plan env s =
          ((m.refresh env t).1.map fun _ => plan.entries.keys, ⟨(m.refresh env t).2, ledger⟩)
      | x :: _ => ∃ f s', m.GrantFails p env x ⟨t, ledger⟩ f s' ∧
          m.grantAll p plan env s = (.error f, s') := by
  obtain ⟨done, rest, requests, split, sent, accepted, ended⟩ :=
    m.exists_issueGrants p env plan.toList s
  refine ⟨done, rest, requests, split, sent, accepted, ?_⟩
  unfold grantAll
  simp only [Program.bind_apply]
  cases rest with
  | nil =>
    simp only at ended
    rw [ended]
    simp only [AccessAct.liftM_apply]
    cases (m.refresh env (env.afterAll s.transcript requests)).1 <;> rfl
  | cons x rest =>
    obtain ⟨f, s', fails, run⟩ := ended
    rw [run]
    exact ⟨f, s', fails, rfl⟩

end

end AccessModel

namespace Context

/-- Registering entities does nothing else, and never fails. -/
theorem registerEntities_apply (es : List EntityId) (env : Environment) (s : ContextState) :
    (registerEntities es env s).1 = .ok () ∧ (registerEntities es env s).2.access = s.access := by
  induction es generalizing s with
  | nil => exact ⟨rfl, rfl⟩
  | cons e rest ih =>
    let registered : ContextState :=
      if s.entities.contains e then s else { s with entities := s.entities ++ [e] }
    have kept : registered.access = s.access := by
      simp only [registered]
      split <;> rfl
    obtain ⟨ended, same⟩ := ih registered
    exact ⟨ended, same.trans kept⟩

/-- **Granting a plan in a context** is granting it, and if that fails nothing is registered. -/
theorem grantAll_cases (c : Context) (p : Principal) (plan : PrivilegePlan) (env : Environment)
    (s : ContextState) :
    (∃ touched, (c.access.grantAll p plan env s.access).1 = .ok touched ∧
      (c.grantAll p plan env s).1 = .ok () ∧
      (c.grantAll p plan env s).2.access = (c.access.grantAll p plan env s.access).2) ∨
    ∃ f, (c.access.grantAll p plan env s.access).1 = .error f ∧
      c.grantAll p plan env s =
        (.error f, { s with access := (c.access.grantAll p plan env s.access).2 }) := by
  unfold grantAll
  rw [Program.bind_apply, ContextAct.liftM_apply]
  cases (c.access.grantAll p plan env s.access).1 with
  | error f => exact .inr ⟨f, rfl, rfl⟩
  | ok touched => exact .inl ⟨touched, rfl, registerEntities_apply _ env _⟩

/-- **A plan is granted entity by entity.**  It is the same for any order of its steps.  What is
granted of it is a prefix, and exactly that is recorded; a plan that is granted to its end leaves
the ledger that its steps would leave one by one, in any order.  If anything fails, nothing is
registered. -/
theorem grantAll_entity_by_entity (c : Context) (p : Principal)
    (steps : List (EntityId × List Action)) (env : Environment) (s : ContextState) :
    let m := c.access
    let plan := PrivilegePlan.ofSteps steps
    let granted := m.grantAll p plan env s.access
    let ran := c.grantAll p plan env s
    -- the plan
    ((∀ steps' : List (EntityId × List Action), steps'.Perm steps →
        PrivilegePlan.ofSteps steps' = plan) ∧
      plan.toList.Pairwise (fun x y => Before x.1 y.1) ∧
      ∀ e actions, (e, actions) ∈ plan.toList ↔ (∃ x ∈ steps, x.1 = e) ∧
        ∀ a, actions.contains a = true ↔ ∃ x ∈ steps, x.1 = e ∧ a ∈ x.2) ∧
    -- its grants, in the order of the entries
    (∃ done rest requests, plan.toList = done ++ rest ∧
      List.Forall₂ (fun (x : EntityId × ActionSet) r =>
        (Change.grant ⟨x.1, p, x.2⟩).requestOf m.admin = .ok r) done requests ∧
      (∀ reply ∈ env.answers s.access.transcript requests, reply.Consents) ∧
      let t := env.afterAll s.access.transcript requests
      let ledger := s.access.ledger.recordAll p done
      (∀ q e a, ledger.holds q e a = true ↔ s.access.ledger.holds q e a = true ∨
        q = p ∧ ∃ x ∈ done, x.1 = e ∧ x.2.contains a = true) ∧
      match rest with
      | x :: _ => ∃ f s', m.GrantFails p env x ⟨t, ledger⟩ f s' ∧ granted = (.error f, s')
      | [] =>
        granted = ((m.refresh env t).1.map fun _ => plan.entries.keys,
            ⟨(m.refresh env t).2, ledger⟩) ∧
          ∀ (steps' : List (EntityId × List Action)) (env' : Environment) (t' : Transcript),
            steps'.Perm steps →
            let single := m.after env' (steps'.map fun x => .grant p x.1 x.2)
              ⟨t', s.access.ledger⟩
            (∀ x ∈ single.transcript.since t', ¬ x.Declined) → single.ledger = ledger) ∧
    -- the registry
    ((∃ x ∈ ran.2.access.transcript.since s.access.transcript, x.isApproval = false) →
      ∃ f, ran.1 = .error f) ∧
    ((∃ f, ran.1 = .error f) → ran.2 = { s with access := granted.2 }) := by
  intro m plan granted ran
  have cases := c.grantAll_cases p plan env s
  refine ⟨⟨fun steps' same => PrivilegePlan.ofSteps_perm same, plan.entries.increasing,
    fun e actions => PrivilegePlan.mem_toList_ofSteps⟩, ?_, ?_, ?_⟩
  · obtain ⟨done, rest, requests, split, sent, accepted, ended⟩ :=
      m.exists_grantAll p env plan s.access
    refine ⟨done, rest, requests, split, sent, accepted,
      s.access.ledger.holds_recordAll p done, ?_⟩
    cases rest with
    | cons x rest => exact ended
    | nil =>
      rw [List.append_nil] at split
      refine ⟨ended, ?_⟩
      intro steps' env' t' same single undeclined
      rw [← split] at sent ⊢
      exact AccessModel.ledger_after_steps same sent _ undeclined
  · rintro ⟨x, mem, unapproved⟩
    rcases cases with ⟨touched, ok, -, same⟩ | ⟨f, -, failed⟩
    · have approved := (m.approved_grantAll p env plan).approved s.access touched ok
      rw [same] at mem
      rw [approved.within x mem] at unapproved
      cases unapproved
    · exact ⟨f, congrArg Prod.fst failed⟩
  · rintro ⟨f, failed⟩
    rcases cases with ⟨touched, -, ok, -⟩ | ⟨f', -, run⟩
    · rw [ok] at failed
      cases failed
    · exact congrArg Prod.snd run

/-- Of two grants the second is declined: the first is recorded, and nothing is registered.  The
steps stand in the other order than the entries. -/
theorem grantAll_entity_by_entity_cut :
    let c : Context := { Context.local with access := .invalidating }
    let plan := PrivilegePlan.ofSteps [(EntityId.space "b", [Action.read]), (.space "a", [.read])]
    let ran := c.grantAll (.user "bob") plan .onceOnly (.start [])
    (∃ f, ran.1 = .error f) ∧ ran.2.entities = [] ∧ ran.2.namespaces = [] ∧
      ran.2.access.ledger =
        Ledger.empty.recordGrant (.user "bob") (.space "a") (.ofList [.read]) := by
  intro c plan ran
  obtain ⟨-, ⟨done, rest, requests, split, sent, accepted, -, ended⟩, -, registry⟩ :=
    c.grantAll_entity_by_entity (.user "bob")
      [(EntityId.space "b", [Action.read]), (.space "a", [.read])] .onceOnly (.start [])
  have planned : plan.toList = [(.space "a", .ofList [.read]), (.space "b", .ofList [.read])] := by
    decide
  have consents : Reply.Consents (.answered ⟨200, ""⟩) := by
    decide
  have declines : ¬ Reply.Consents (.answered ⟨403, "no"⟩) := by
    decide
  have able : RestClient.local.CanSend := RestClient.canSend_local
  have split : [(EntityId.space "a", ActionSet.ofList [.read]),
    (.space "b", .ofList [.read])] = done ++ rest := planned.symm.trans split
  cases sent with
  | nil =>
    -- the first grant does not come to nothing
    subst split
    obtain ⟨f, s', fails, -⟩ := ended
    cases fails with
    | unsent mute =>
      obtain ⟨r, request⟩ := (RestClient.exists_requestOf_iff (.grant _)).2 able
      exact nomatch mute.symm.trans request
    | declined r request answer => exact absurd consents (Reply.not_consents_of_consent answer)
  | cons first later =>
    obtain ⟨rfl, others⟩ := List.cons.inj split
    cases later with
    | cons second last =>
      -- the answer to the second is no consent
      exact absurd (accepted _ (List.mem_cons_of_mem _ List.mem_cons_self)) declines
    | nil =>
      obtain rfl : [(EntityId.space "b", ActionSet.ofList [.read])] = rest := others
      obtain ⟨f, s', fails, run⟩ := ended
      have failed : ∃ f, ran.1 = .error f := by
        rcases c.grantAll_cases (.user "bob") plan .onceOnly (.start []) with
          ⟨touched, ok, -⟩ | ⟨f', -, failed⟩
        · exact nomatch ok.symm.trans (congrArg Prod.fst run)
        · exact ⟨f', congrArg Prod.fst failed⟩
      have state : ran.2 = { ContextState.start [] with access := s' } :=
        (registry failed).trans
          (congrArg (fun x => { ContextState.start [] with access := x.2 }) run)
      refine ⟨failed, congrArg ContextState.entities state,
        congrArg ContextState.namespaces state, ?_⟩
      rw [state]
      cases fails with
      | unsent mute => rfl
      | declined r request answer => rfl

end Context

end AccessHarness
