import AccessHarness.Proofs.Scenario.Histories

/-!
# Relations that a history follows

A relation of transcripts that every request of some kind keeps is kept by whatever is made of such
requests, in the access model and in the context of a scenario.

* `AccessAct.Follows`, `ContextAct.Follows` — an operation whose history follows a relation.
* `AccessModel.Advances` — everything the access model asks for follows it.
* `AccessModel.Advances.grant`, `grantAll`, `revoke`, … — and so do its operations.
* `Context.follows_clientFor`, `Context.follows_deployTestApp`, … — the steps of scenarios, from the
  requests they are made of.
* `Scenario.leads_inStages` — stages that are tried one after the other.

Ledger, clients and registry are no part of the history, so the steps that change them follow every
relation that is reflexive.
-/

namespace AccessHarness

open Program (Leads)

variable {R : Transcript → Transcript → Prop} [IsPreorder Transcript R] {env : Environment}
  {α : Type}

/-- **An operation of the access model whose history follows a relation.** -/
abbrev AccessAct.Follows (R : Transcript → Transcript → Prop) (env : Environment)
    (m : AccessAct α) : Prop :=
  Leads (InvImage R AccessState.transcript) env m

/-- **An operation in a context whose history follows a relation.** -/
abbrev ContextAct.Follows (R : Transcript → Transcript → Prop) (env : Environment)
    (m : ContextAct α) : Prop :=
  Leads (InvImage R ContextState.transcript) env m

/-! ### The access model -/

namespace AccessModel

/-- **All that an access model asks for follows a relation.** -/
structure Advances (R : Transcript → Transcript → Prop) (env : Environment) (m : AccessModel) :
    Prop where
  granted : ∀ request, Leads R env (m.admin.grantPrivileges request)
  revoked : ∀ request, Leads R env (m.admin.revokePrivileges request)
  listed : ∀ p, Leads R env (m.privileges p)
  refreshed : Leads R env m.refresh

namespace Advances

variable {m : AccessModel} (h : m.Advances R env) (p : Principal)

include h

theorem issueGrant (e : EntityId) (actions : ActionSet) :
    AccessAct.Follows R env (m.issueGrant p e actions) :=
  .bind (AccessAct.leads_liftM (h.granted _)) fun _ => fun s => refl_of R s.transcript

theorem issueGrants (plan : List (EntityId × ActionSet)) :
    AccessAct.Follows R env (m.issueGrants p plan) := by
  induction plan with
  | nil => exact .pure ()
  | cons entry rest ih =>
    obtain ⟨e, actions⟩ := entry
    exact .bind (h.issueGrant p e actions) fun _ => ih

theorem grant (e : EntityId) (actions : List Action) :
    AccessAct.Follows R env (m.grant p e actions) :=
  .bind (h.issueGrant p e _) fun _ => AccessAct.leads_liftM h.refreshed

theorem grantAll (plan : PrivilegePlan) : AccessAct.Follows R env (m.grantAll p plan) :=
  .bind (h.issueGrants p plan.toList) fun _ =>
    .bind (AccessAct.leads_liftM h.refreshed) fun _ => .pure _

theorem revokeEntities (es : List EntityId) : Leads R env (m.revokeEntities p es) := by
  induction es with
  | nil => exact .pure ()
  | cons e rest ih => exact .bind (h.revoked _) fun _ => ih

theorem revoke (e : Option EntityId) (actions : Option (List Action)) :
    AccessAct.Follows R env (m.revoke p e actions) := by
  have recorded (f : Ledger → Ledger) : AccessAct.Follows R env (AccessAct.record f) := fun s =>
    refl_of R s.transcript
  have refreshed : AccessAct.Follows R env (liftM m.refresh : AccessAct Unit) :=
    AccessAct.leads_liftM h.refreshed
  cases e with
  | some e =>
    exact .bind (AccessAct.leads_liftM (h.revoked _)) fun _ =>
      .bind (recorded _) fun _ => refreshed
  | none =>
    exact .bind (AccessAct.leads_liftM (h.listed p)) fun held =>
      .bind (AccessAct.leads_liftM (h.revokeEntities p _)) fun _ =>
        .bind (recorded _) fun _ => refreshed

end Advances

end AccessModel

/-! ### Operations in a context -/

namespace ContextAct

omit [IsPreorder Transcript R] in
theorem follows_access {m : AccessAct α} (h : AccessAct.Follows R env m) :
    Follows R env (liftM m : ContextAct α) := fun s => h s.access

omit [IsPreorder Transcript R] in
theorem follows_session {m : Session α} (h : Leads R env m) :
    Follows R env (liftM m : ContextAct α) := fun s => h s.access.transcript

theorem follows_ofOutcome (o : Outcome α) : Follows R env (ofOutcome o) := fun s =>
  refl_of R s.transcript

/-- What concerns clients and registry only is no part of the history. -/
theorem follows_update {f : ContextState → ContextState} (same : ∀ s, (f s).access = s.access) :
    Follows R env (update f) := by
  intro s
  show R s.access.transcript (f s).access.transcript
  rw [same]
  exact refl_of R _

section

variable (p : Principal) (e : EntityId) (a : Action) {m : Session α}

theorem follows_assertAllowed (h : Leads R env m) : Follows R env (assertAllowed p e a m) :=
  .bind (fun s => h s.access.transcript) fun _ => follows_ofOutcome _

theorem follows_assertDenied (h : Leads R env m) : Follows R env (assertDenied p e a m) :=
  .bind (fun s => h s.access.transcript) fun _ => follows_ofOutcome _

end

/-- To keep the outcome of an operation adds nothing to it. -/
theorem leads_attempt {Q : ContextState → ContextState → Prop} {m : ContextAct α}
    (h : Leads Q env m) : Leads Q env (attempt m) := fun s => h s

end ContextAct

namespace Context

open ContextAct

variable (c : Context)

theorem follows_registerNamespace (ns : NamespaceId) :
    Follows R env (registerNamespace ns) := by
  apply follows_update
  intro s
  split <;> rfl

theorem follows_registerEntity (e : EntityId) : Follows R env (registerEntity e) := by
  apply follows_update
  intro s
  split <;> rfl

theorem follows_registerEntities (es : List EntityId) : Follows R env (registerEntities es) := by
  induction es with
  | nil => exact .pure ()
  | cons e rest ih => exact .bind (follows_registerEntity e) fun _ => ih

variable {c}

theorem follows_grantAll (h : c.access.Advances R env) (p : Principal) (plan : PrivilegePlan) :
    Follows R env (c.grantAll p plan) :=
  .bind (follows_access (h.grantAll p plan)) fun _ => follows_registerEntities _

theorem follows_createNamespace {client : RestClient} {ns : TestNamespace}
    (h : Leads R env (client.createNamespace ns.details)) :
    Follows R env (createNamespace client ns) :=
  .bind (follows_session h) fun _ => follows_registerNamespace ns.id

/-- A user is logged in at most, and remembered. -/
theorem follows_clientFor {user : String}
    (h : Leads R env (RestClient.login c.settings.endpoint (c.settings.credentialsFor user))) :
    Follows R env (c.clientFor user) := by
  unfold clientFor
  split
  · exact .pure _
  · refine .bind (fun s => refl_of R s.transcript) fun s => ?_
    split
    · exact .pure _
    · exact .bind (follows_session h) fun client =>
        .bind (follows_update fun _ => rfl) fun _ => .pure _

theorem follows_deployTestApp {client : RestClient} {app : ApplicationId} {artifact : String}
    (read : ∀ path, Leads R env (Session.fileContent path))
    (added : ∀ version content,
      Leads R env (client.addArtifact (app.ns.artifact artifact version) [] content))
    (deployed : ∀ request : AppRequest Json, Leads R env (client.deployApp app id request))
    (config : Option Json) (owner : Option String) :
    Follows R env (c.deployTestApp client app artifact config owner) := by
  have registered (summary : ArtifactSummary) : Follows R env (do
      client.deployApp app id ⟨summary, config, owner⟩
      registerEntity app.toEntity : ContextAct Unit) :=
    .bind (follows_session (deployed _)) fun _ => follows_registerEntity app.toEntity
  unfold deployTestApp
  cases c.settings.artifactDirectory with
  | none => exact .bind (.pure _) registered
  | some directory =>
    exact .bind (follows_session (read _)) fun content =>
      .bind (follows_session (added _ content)) fun _ => .bind (.pure _) registered

end Context

namespace Scenario

variable {Q : ContextState → ContextState → Prop} [IsPreorder ContextState Q]

/-- **Stages lead where each of them does**, however far they get. -/
theorem leads_inStages {stages : List (Nat × ContextAct Unit)}
    (h : ∀ stage ∈ stages, Leads Q env stage.2) (reached : Nat) :
    Leads Q env (inStages stages reached) := by
  induction stages generalizing reached with
  | nil => exact .pure _
  | cons stage rest ih =>
    obtain ⟨n, body⟩ := stage
    refine .bind (ContextAct.leads_attempt (h (n, body) List.mem_cons_self)) ?_
    rintro (f | u)
    · exact .pure _
    · exact ih (fun stage mem => h stage (List.mem_cons_of_mem _ mem)) n

end Scenario

end AccessHarness
