import AccessHarness.Proofs.Access.Accounts
import AccessHarness.Scenario.Applications

/-!
# How a scenario goes on

Whatever a scenario does, it only adds to what happened, and a user who is logged in stays logged
in with the same client.

* `ContextState.Later` — a state that a scenario can come to from another.
* `Context.clientOf` — the client of a user, once there is one.
* `ContextAct.later_liftM`, `Context.later_clientFor`, … — the steps of scenarios lead to later
  states, whether they succeed or not.
-/

namespace AccessHarness

open Program (Leads Accountable)

/-- What happened so far. -/
abbrev ContextState.transcript (s : ContextState) : Transcript := s.access.transcript

/-- **A later state of a scenario**: its history goes on, and clients stay. -/
structure ContextState.Later (env : Environment) (s s' : ContextState) : Prop where
  history : env.Continues s.transcript s'.transcript
  clients : ∀ {user client}, s.clients.find? user = some client →
    s'.clients.find? user = some client

instance {env : Environment} : IsPreorder ContextState (ContextState.Later env) where
  refl _ := ⟨.refl, id⟩
  trans _ _ _ h h' := ⟨h.history.trans h'.history, fun known => h'.clients (h.clients known)⟩

/-- **The client of a user**, if the user is the administrator or has logged in. -/
def Context.clientOf (c : Context) (s : ContextState) (user : String) : Option RestClient :=
  if user = c.settings.adminUser then some c.admin else s.clients.find? user

open ContextState (Later)

variable {env : Environment} {α : Type}

theorem Context.clientOf_later {c : Context} {s s' : ContextState} {user : String}
    {client : RestClient} (later : Later env s s') (known : c.clientOf s user = some client) :
    c.clientOf s' user = some client := by
  unfold clientOf at known ⊢
  split at known
  · rename_i admin
    rw [if_pos admin]
    exact known
  · rename_i other
    rw [if_neg other]
    exact later.clients known

namespace ContextAct

theorem later_liftM {m : AccessAct α}
    (h : Leads (InvImage env.Continues AccessState.transcript) env m) :
    Leads (Later env) env (liftM m : ContextAct α) := fun s => ⟨h s.access, id⟩

theorem later_liftM_session {m : Session α} (h : Leads env.Continues env m) :
    Leads (Later env) env (liftM m : ContextAct α) := fun s => ⟨h s.access.transcript, id⟩

theorem accountable_liftM_session {m : Session α} (h : Accountable id env m) :
    Accountable ContextState.transcript env (liftM m : ContextAct α) where
  onward s := h.onward s.transcript
  borneOut s f failed := h.borneOut s.transcript f failed

/-- What concerns the registry only is no part of the history. -/
theorem later_update {f : ContextState → ContextState}
    (same : ∀ s, (f s).access = s.access ∧ (f s).clients = s.clients) :
    Leads (Later env) env (update f) := by
  intro s
  obtain ⟨access, clients⟩ := same s
  refine ⟨?_, ?_⟩
  · show env.Continues s.access.transcript (f s).access.transcript
    rw [access]
    exact .refl
  · intro user client known
    show (f s).clients.find? user = some client
    rw [clients]
    exact known

theorem later_ofOutcome (o : Outcome α) : Leads (Later env) env (ofOutcome o) :=
  fun s => refl_of _ s

theorem later_state : Leads (Later env) env state := fun s => refl_of _ s

theorem later_expect (p : Principal) (requirements : List Requirement) :
    Leads (Later env) env (expect p requirements) := fun s => refl_of _ s

theorem later_probe {m : ContextAct α} (h : Leads (Later env) env m) :
    Leads (Later env) env (probe m) := fun s => h s

section

variable (p : Principal) (e : EntityId) (a : Action) {m : Session α}

theorem later_assertAllowed (h : Leads env.Continues env m) :
    Leads (Later env) env (assertAllowed p e a m) := fun s => ⟨h s.transcript, id⟩

theorem later_ensureRejected (shown : α → String) (what : String)
    (h : Leads env.Continues env m) : Leads (Later env) env (ensureRejected shown what m) :=
  fun s => ⟨h s.transcript, id⟩

theorem later_verifyPrediction (requirements : List Requirement) (subject : String)
    {m : ContextAct α} (h : Leads (Later env) env m) :
    Leads (Later env) env (verifyPrediction p requirements subject m) :=
  .bind (later_expect p requirements) fun _ => .bind (later_probe h) fun _ =>
    .bind (later_ofOutcome _) fun _ => .pure _

end

end ContextAct

namespace Context

variable (c : Context)

open ContextAct

theorem later_registerNamespace (ns : NamespaceId) :
    Leads (Later env) env (registerNamespace ns) := by
  refine later_update ?_
  intro s
  split <;> exact ⟨rfl, rfl⟩

theorem later_registerEntity (e : EntityId) : Leads (Later env) env (registerEntity e) := by
  refine later_update ?_
  intro s
  split <;> exact ⟨rfl, rfl⟩

theorem later_registerEntities (es : List EntityId) :
    Leads (Later env) env (registerEntities es) := by
  induction es with
  | nil => exact .pure ()
  | cons e rest ih => exact .bind (later_registerEntity e) fun _ => ih

theorem later_createNamespace (client : RestClient) (ns : TestNamespace) :
    Leads (Later env) env (createNamespace client ns) :=
  .bind (later_liftM_session (client.accountable_putJson _ _).onward) fun _ =>
    later_registerNamespace ns.id

theorem later_deleteNamespace (client : RestClient) (ns : NamespaceId) :
    Leads (Later env) env (deleteNamespace client ns) := by
  refine .bind (later_liftM_session (client.accountable_delete _).onward) fun _ =>
    .bind (later_update fun _ => ⟨rfl, rfl⟩) fun _ => ?_
  exact later_liftM (AccessAct.accountable_record _).onward

theorem later_grant (p : Principal) (e : EntityId) (actions : List Action) :
    Leads (Later env) env (liftM (c.access.grant p e actions) : ContextAct Unit) :=
  later_liftM (c.access.accountable_grant p e actions).onward

theorem later_revoke (p : Principal) (e : Option EntityId) (actions : Option (List Action)) :
    Leads (Later env) env (liftM (c.access.revoke p e actions) : ContextAct Unit) :=
  later_liftM (c.access.accountable_revoke p e actions).onward

theorem later_grantAll (p : Principal) (plan : PrivilegePlan) :
    Leads (Later env) env (c.grantAll p plan) :=
  .bind (later_liftM (c.access.accountable_grantAll p plan).onward) fun _ =>
    later_registerEntities _

theorem later_grantRequirements (p : Principal) (requirements : List Requirement) :
    Leads (Later env) env (c.grantRequirements p requirements) := by
  induction requirements with
  | nil => exact .pure ()
  | cons requirement rest ih =>
    obtain ⟨e, a⟩ := requirement
    exact .bind (c.later_grant p e [a]) fun _ => ih

theorem later_createNamespaceAsAdmin (ns : TestNamespace) :
    Leads (Later env) env (c.createNamespaceAsAdmin ns) :=
  .bind (c.later_grantRequirements _ _) fun _ => later_createNamespace c.admin ns

private theorem clientFor_spec (user : String) (s : ContextState) :
    Later env s (c.clientFor user env s).2 ∧
      ∀ client, (c.clientFor user env s).1 = .ok client →
        c.clientOf (c.clientFor user env s).2 user = some client := by
  unfold clientFor clientOf
  split
  · exact ⟨refl_of _ s, fun client found => congrArg some (Except.ok.inj found)⟩
  · simp only [Program.bind_apply, state_apply]
    cases known : s.clients.find? user with
    | some client =>
      refine ⟨refl_of _ s, ?_⟩
      intro client' found
      exact known.trans (congrArg some (Except.ok.inj found))
    | none =>
      have asked : env.Continues s.transcript _ := RestClient.leads_login c.settings.endpoint
        (c.settings.credentialsFor user) s.transcript
      simp only [Program.bind_apply, liftM_session_apply]
      generalize RestClient.login c.settings.endpoint (c.settings.credentialsFor user) env
        s.transcript = out at asked ⊢
      obtain ⟨f | client, t⟩ := out
      · exact ⟨⟨asked, id⟩, nofun⟩
      · refine ⟨⟨asked, ?_⟩, ?_⟩
        · -- nobody else's client is replaced
          intro other client' found
          have different : other ≠ user := by
            rintro rfl
            rw [known] at found
            cases found
          exact (OrderedMap.find?_insert_ne _ _ different).trans found
        · intro client' found
          cases found
          exact OrderedMap.find?_insert_self _ _ _

/-- Logging in takes nobody's client away. -/
theorem later_clientFor (user : String) : Leads (Later env) env (c.clientFor user) :=
  fun s => (c.clientFor_spec user s).1

/-- **A user who has logged in is known.** -/
theorem clientOf_of_clientFor {user : String} {s s' : ContextState} {client : RestClient}
    (run : c.clientFor user env s = (.ok client, s')) : c.clientOf s' user = some client := by
  have found (ended : (c.clientFor user env s).1 = .ok client) :
      c.clientOf (c.clientFor user env s).2 user = some client :=
    (c.clientFor_spec user s).2 client ended
  rw [run] at found
  exact found rfl

section Deployment

variable (client : RestClient) (app : ApplicationId) (artifact : String) (config : Option Json)
  (owner : Option String)

/-- The upload of an artifact, where there is one, and the deployment are the only requests. -/
theorem accountable_deployTestApp : Accountable ContextState.transcript env
    (c.deployTestApp client app artifact config owner) := by
  have deployed (summary : ArtifactSummary) : Accountable ContextState.transcript env (do
      client.deployApp app id ⟨summary, config, owner⟩
      registerEntity app.toEntity : ContextAct Unit) := by
    refine .bind (accountable_liftM_session (client.accountable_putJson _ _)) fun _ => ?_
    refine ⟨fun s => (later_registerEntity app.toEntity s).history, ?_⟩
    intro s f failed
    cases failed
  unfold deployTestApp
  cases c.settings.artifactDirectory with
  | none => exact .bind (.pure _) deployed
  | some directory =>
    exact .bind (accountable_liftM_session (Session.accountable_fileContent _)) fun content =>
      .bind (accountable_liftM_session (client.accountable_addArtifact _ [] content)) fun _ =>
        .bind (.pure _) deployed

theorem later_deployTestApp :
    Leads (Later env) env (c.deployTestApp client app artifact config owner) := by
  have deployed (summary : ArtifactSummary) : Leads (Later env) env (do
      client.deployApp app id ⟨summary, config, owner⟩
      registerEntity app.toEntity : ContextAct Unit) :=
    .bind (later_liftM_session (client.accountable_putJson _ _).onward) fun _ =>
      later_registerEntity app.toEntity
  unfold deployTestApp
  cases c.settings.artifactDirectory with
  | none => exact .bind (.pure _) deployed
  | some directory =>
    exact .bind (later_liftM_session (Session.accountable_fileContent _).onward) fun content =>
      .bind (later_liftM_session (client.accountable_addArtifact _ [] content).onward) fun _ =>
        .bind (.pure _) deployed

end Deployment

end Context

/-! ### Services with a table -/

namespace Scenario.TableApp

variable (client : RestClient) (service : ProgramId)

theorem leads_stop (runs : Nat) : Leads env.Continues env (stop client service runs) :=
  .bind (client.accountable_post _ _).onward fun _ =>
    .bind (client.leads_waitForRuns service .killed runs _) fun _ => .pure _

theorem leads_restart (killed : Nat) : Leads env.Continues env (restart client service killed) :=
  .bind (leads_stop client service killed) fun _ =>
    .bind (client.accountable_post _ _).onward fun _ =>
      .bind (client.leads_waitForRun service .running _) fun _ =>
        client.leads_serviceUrl service _

theorem later_start (c : Context) (app : ApplicationId) (dataset owner : String) :
    Leads (Later env) env (start c app dataset owner) :=
  .bind (c.later_deployTestApp c.admin app _ _ _) fun _ =>
    .bind (ContextAct.later_liftM_session (c.admin.accountable_post _ _).onward) fun _ =>
      .bind (ContextAct.later_liftM_session (c.admin.leads_waitForRun _ .running _)) fun _ =>
        .bind (ContextAct.later_ofOutcome _) fun _ =>
          ContextAct.later_liftM_session (c.admin.leads_serviceUrl _ _)

end Scenario.TableApp

end AccessHarness
