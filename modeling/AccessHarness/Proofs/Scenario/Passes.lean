import AccessHarness.Proofs.Scenario.Calls
import AccessHarness.Proofs.Scenario.Denials
import AccessHarness.Scenario.Registry

/-!
# No scenario passes in vain

A scenario that passes has seen every refusal it demands.  A platform that lets everybody do
everything, or that answers nothing but errors of other kinds, makes each of them fail.

* `Scenario.denials` — what each scenario demands to be denied.
* `Scenario.denied_of_pass` — a scenario passes only if all of that was refused, in turn.

### What is load-bearing

Most scenarios are a sequence of steps, and `Context.Demands` has one rule for each kind of step.
Two need more.

**A service is started anew between the stages of `Scenario.datasetInProgram`**, and each time its
address is asked for.  It is the same one every time (`TableApp.IsAddress`): the platform is asked
whether the service is there, but not where.

**`Scenario.deployAppUnauthorized` does not assert a denial.**  It compares what was observed with
what the ledger predicts, and nothing in the ledger lets carol deploy: what was granted before lies
outside of all applications (`Scenario.GainsWithin`).  So the prediction is a denial, and an
observed success or any other failure does not agree with it.
-/

namespace AccessHarness

open Program (Leads Accountable)
open ContextState (Later)

/-! ### The scenarios -/

namespace Scenario

open Context ContextAct

variable (c : Context) {env : Environment}

/-- The administrator, whose client is at hand. -/
def adminAtHand : List (String × RestClient) := [(c.settings.adminUser, c.admin)]

/-- Bob holds nothing, and eve nothing on the namespace. -/
def namespaceDenials : List Denial :=
  [.of bob fun client => client.listApps c.testNamespace.id,
   .of eve fun client => client.deleteNamespace c.testNamespace.id]

theorem demands_namespacePrivileges :
    c.Demands env (adminAtHand c) (namespaceDenials c) (namespacePrivileges c) := by
  unfold namespacePrivileges
  refine .skip (c.later_grantRequirements _ _) fun _ => ?_
  refine .skip (c.later_grant _ _ _) fun _ => ?_
  refine .skip (c.later_grant _ _ _) fun _ => ?_
  refine .skip (c.later_grant _ _ _) fun _ => ?_
  refine .client fun bobClient => ?_
  refine .skip (later_verifyPrediction _ _ _
    (later_liftM_session (bobClient.accountable_putJson _ _).onward)) fun _ => ?_
  refine .skip (later_verifyPrediction _ _ _ (later_createNamespace c.admin _)) fun _ => ?_
  refine .append (.denied (by simp) (bobClient.accountable_get _ _) _ _ _) fun _ => ?_
  refine .client fun aliceClient => ?_
  refine .skip (later_liftM_session (aliceClient.accountable_putJson _ _).onward) fun _ => ?_
  refine .skip (later_registerEntity _) fun _ => ?_
  refine .skip (later_liftM_session (c.admin.accountable_get _ _).onward) fun visible => ?_
  refine .skip (later_ofOutcome _) fun _ => ?_
  refine .skip (later_expect _ _) fun expectation => ?_
  refine .skip (later_ofOutcome _) fun _ => ?_
  refine .skip (later_ensureRejected _ _ (c.admin.accountable_delete _).onward) fun _ => ?_
  refine .skip (later_liftM_session (c.admin.accountable_namespaceExists _).onward)
    fun present => ?_
  refine .skip (later_ofOutcome _) fun _ => ?_
  refine .client fun eveClient => ?_
  refine .append (.denied (by simp) (eveClient.accountable_delete _) _ _ _) fun _ => ?_
  refine .skip (later_verifyPrediction _ _ _ (later_deleteNamespace aliceClient _)) fun _ => ?_
  refine .skip (later_liftM_session (c.admin.accountable_namespaceExists _).onward)
    fun present => ?_
  exact .done (later_ofOutcome _)

/-- Alice holds nothing, and eve may only read. -/
def datasetDenials : List Denial :=
  let ds := c.testNamespace.id.dataset "testDatasetPrivileges"
  [.of alice fun client => client.datasetExists ds,
   .of eve fun client => client.truncateDataset ds,
   .of eve fun client => client.updateDataset ds OrderedMap.empty,
   .of eve fun client => client.deleteDataset ds]

theorem demands_datasetPrivileges :
    c.Demands env (adminAtHand c) (datasetDenials c) (datasetPrivileges c) := by
  unfold datasetPrivileges
  refine .skip (c.later_grant _ _ _) fun _ => ?_
  refine .skip (c.later_grant _ _ _) fun _ => ?_
  refine .skip (c.later_createNamespaceAsAdmin _) fun _ => ?_
  refine .skip (later_liftM_session (c.admin.accountable_putJson _ _).onward) fun _ => ?_
  refine .skip (later_registerEntity _) fun _ => ?_
  refine .skip (later_liftM_session (c.admin.accountable_datasetExists _).onward)
    fun present => ?_
  refine .skip (later_ofOutcome _) fun _ => ?_
  refine .skip (later_liftM_session (c.admin.accountable_get _ _).onward) fun visible => ?_
  refine .skip (later_ofOutcome _) fun _ => ?_
  refine .skip (later_liftM_session (c.admin.accountable_get _ _).onward) fun _ => ?_
  refine .skip (later_liftM_session (c.admin.accountable_post _ _).onward) fun _ => ?_
  refine .skip (later_liftM_session (c.admin.accountable_putJson _ _).onward) fun _ => ?_
  refine .client fun aliceClient => ?_
  refine .append (.denied (by simp) (aliceClient.accountable_datasetExists _) _ _ _) fun _ => ?_
  refine .client fun eveClient => ?_
  refine .skip (later_assertAllowed _ _ _ (eveClient.accountable_datasetExists _).onward)
    fun present => ?_
  refine .skip (later_ofOutcome _) fun _ => ?_
  refine .skip (later_assertAllowed _ _ _ (eveClient.accountable_get _ _).onward)
    fun visible => ?_
  refine .skip (later_ofOutcome _) fun _ => ?_
  refine .skip (later_assertAllowed _ _ _ (eveClient.accountable_get _ _).onward) fun _ => ?_
  refine .append (.denied (by simp) (eveClient.accountable_post _ _) _ _ _) fun _ => ?_
  refine .append (.denied (by simp) (eveClient.accountable_putJson _ _) _ _ _) fun _ => ?_
  refine .append (.denied (by simp) (eveClient.accountable_delete _) _ _ _) fun _ => ?_
  exact .done (later_assertAllowed _ _ _ (c.admin.accountable_delete _).onward)

/-- The administrator may not write, bob may only read, and alice only write. -/
def streamDenials : List Denial :=
  let stream := c.testNamespace.id.stream "testStreamPrivileges"
  [.of c.settings.adminUser fun client => client.sendEvent stream "an event",
   .of bob fun client => client.sendEvent stream "an event",
   .of bob fun client => client.deleteStream stream,
   .of alice fun client => client.deleteStream stream]

theorem demands_streamPrivileges :
    c.Demands env (adminAtHand c) (streamDenials c) (streamPrivileges c) := by
  unfold streamPrivileges
  refine .skip (c.later_grant _ _ _) fun _ => ?_
  refine .skip (c.later_grant _ _ _) fun _ => ?_
  refine .skip (c.later_grant _ _ _) fun _ => ?_
  refine .skip (c.later_createNamespaceAsAdmin _) fun _ => ?_
  refine .skip (later_liftM_session (c.admin.accountable_putJson _ _).onward) fun _ => ?_
  refine .skip (later_registerEntity _) fun _ => ?_
  refine .skip (later_liftM_session (c.admin.accountable_get _ _).onward) fun visible => ?_
  refine .skip (later_ofOutcome _) fun _ => ?_
  refine .skip (later_liftM_session (c.admin.accountable_get _ _).onward) fun _ => ?_
  refine .skip (later_liftM_session (c.admin.accountable_post _ _).onward) fun _ => ?_
  refine .client fun bobClient => ?_
  refine .client fun aliceClient => ?_
  refine .append (.denied (by simp [adminAtHand]) (c.admin.accountable_post _ _) _ _ _)
    fun _ => ?_
  refine .skip (later_ensureRejected _ _ (c.admin.accountable_events _ _ _ _).onward)
    fun _ => ?_
  refine .skip (later_assertAllowed _ _ _ (bobClient.accountable_events _ _ _ _).onward)
    fun _ => ?_
  refine .append (.denied (by simp) (bobClient.accountable_post _ _) _ _ _) fun _ => ?_
  refine .skip (later_assertAllowed _ _ _ (aliceClient.accountable_post _ _).onward)
    fun _ => ?_
  refine .skip (later_ensureRejected _ _ (aliceClient.accountable_events _ _ _ _).onward)
    fun _ => ?_
  refine .append (.denied (by simp) (bobClient.accountable_delete _) _ _ _) fun _ => ?_
  refine .append (.denied (by simp) (aliceClient.accountable_delete _) _ _ _) fun _ => ?_
  exact .done (later_assertAllowed _ _ _ (c.admin.accountable_delete _).onward)

/-- Everything was revoked from carol. -/
def lifecycleDenials : List Denial :=
  let ds := (⟨c.uniqueName "ns1"⟩ : NamespaceId).dataset "ds1"
  [.of carol fun client => client.datasetExists ds]

theorem demands_datasetLifecycle :
    c.Demands env (adminAtHand c) (lifecycleDenials c) (datasetLifecycle c) := by
  unfold datasetLifecycle
  refine .skip (c.later_grant _ _ _) fun _ => ?_
  refine .skip (later_createNamespace c.admin _) fun _ => ?_
  refine .skip (c.later_grant _ _ _) fun _ => ?_
  refine .client fun carolClient => ?_
  refine .skip (later_liftM_session (carolClient.accountable_putJson _ _).onward) fun _ => ?_
  refine .skip (later_registerEntity _) fun _ => ?_
  refine .skip (later_assertAllowed _ _ _ (carolClient.accountable_datasetExists _).onward)
    fun present => ?_
  refine .skip (later_ofOutcome _) fun _ => ?_
  refine .skip (c.later_revoke _ _ _) fun _ => ?_
  refine .skip later_state fun s => ?_
  refine .skip (later_ofOutcome _) fun _ => ?_
  exact .denied (by simp) (carolClient.accountable_datasetExists _) _ _ _

/-! ### The service of a table -/

namespace TableApp

/-- An operation at the address of a service. -/
def atService {α : Type} (service : ProgramId) (operation : Url → Session α) : Session α := do
  let url ← Session.ofOutcome (c.admin.url (Route.program service "methods" ++ "/"))
  operation url

/-- Whether this is the address of a service. -/
def IsAddress (service : ProgramId) (url : Url) : Prop :=
  c.admin.url (Route.program service "methods" ++ "/") = .ok url

variable {c}

theorem atService_eq {α : Type} {service : ProgramId} {url : Url}
    (address : IsAddress c service url) (operation : Url → Session α) :
    atService c service operation = operation url := by
  unfold atService
  rw [address]
  rfl

theorem isAddress_of_serviceUrl {service : ProgramId} {w : WaitSpec} {t t' : Transcript}
    {url : Url} (h : c.admin.serviceUrl service w env t = (.ok url, t')) :
    IsAddress c service url := by
  unfold RestClient.serviceUrl at h
  obtain ⟨_, t₁, -, taken⟩ := Program.exists_of_bind_eq_ok h
  unfold Session.ofOutcome at taken
  exact (Prod.mk.inj taken).1

/-- A session that succeeds in a scenario succeeds by itself. -/
theorem exists_of_liftM_eq_ok {α : Type} {m : Session α} {s s' : ContextState} {a : α}
    (h : (liftM m : ContextAct α) env s = (.ok a, s')) :
    ∃ t', m env s.transcript = (.ok a, t') := by
  rw [liftM_session_apply, Prod.mk.injEq] at h
  exact ⟨_, Prod.ext h.1 rfl⟩

theorem isAddress_of_start {app : ApplicationId} {dataset owner : String} {s s' : ContextState}
    {url : Url} (h : start c app dataset owner env s = (.ok url, s')) :
    IsAddress c (app.service service) url := by
  unfold start at h
  obtain ⟨_, s₁, -, h⟩ := Program.exists_of_bind_eq_ok h
  obtain ⟨_, s₂, -, h⟩ := Program.exists_of_bind_eq_ok h
  obtain ⟨_, s₃, -, h⟩ := Program.exists_of_bind_eq_ok h
  obtain ⟨w, s₄, -, h⟩ := Program.exists_of_bind_eq_ok h
  obtain ⟨t', h⟩ := exists_of_liftM_eq_ok h
  exact isAddress_of_serviceUrl h

theorem isAddress_of_restart {service : ProgramId} {killed : Nat} {s s' : ContextState}
    {url : Url}
    (h : (liftM (restart c.admin service killed) : ContextAct Url) env s = (.ok url, s')) :
    IsAddress c service url := by
  obtain ⟨t', h⟩ := exists_of_liftM_eq_ok h
  unfold restart at h
  obtain ⟨_, t₁, -, h⟩ := Program.exists_of_bind_eq_ok h
  obtain ⟨_, t₂, -, h⟩ := Program.exists_of_bind_eq_ok h
  obtain ⟨_, t₃, -, h⟩ := Program.exists_of_bind_eq_ok h
  exact isAddress_of_serviceUrl h

end TableApp

/-- What every stage demands is demanded of stages that all succeed. -/
theorem refused_of_inStages {known : List (String × RestClient)}
    {stages : List (Nat × ContextAct Unit)} {demanded : List (List Denial)}
    (h : List.Forall₂ (fun stage ds => c.Demands env known ds stage.2) stages demanded)
    {reached last : Nat} {s s' : ContextState} (knows : c.Knows s known)
    (run : inStages stages reached env s = (.ok (.ok (), last), s')) :
    Later env s s' ∧ c.RefusedInTurn env s' demanded.flatten s.transcript := by
  induction h generalizing reached s with
  | nil =>
    cases run
    exact ⟨refl_of _ _, .nil .refl⟩
  | @cons stage ds stages demanded first _ ih =>
    obtain ⟨n, body⟩ := stage
    unfold inStages at run
    obtain ⟨outcome, s₁, staged, run⟩ := Program.exists_of_bind_eq_ok run
    rw [ContextAct.attempt_apply, Prod.mk.injEq, Except.ok.injEq] at staged
    obtain ⟨rfl, rfl⟩ := staged
    cases ended : (body env s).1 with
    | error f =>
      rw [ended] at run
      cases run
    | ok u =>
      rw [ended] at run
      obtain ⟨later, refused⟩ := first s u (body env s).2 knows (Prod.ext ended rfl)
      obtain ⟨later', refused'⟩ := ih (knows.later later) run
      exact ⟨trans_of _ later later', refused.append later' refused'⟩

/-- Whatever comes of stopping a service after the stages, it is the stages that count. -/
theorem demands_stages {known : List (String × RestClient)}
    {stages : List (Nat × ContextAct Unit)} {demanded : List (List Denial)}
    (h : List.Forall₂ (fun stage ds => c.Demands env known ds stage.2) stages demanded)
    {stop : Nat → Session Unit} (stops : ∀ n, Leads env.Continues env (stop n)) :
    c.Demands env known demanded.flatten (do
      let (outcome, restarts) ← inStages stages 0
      let stopped ← Session.attempt (stop restarts)
      ofOutcome outcome
      ofOutcome stopped) := by
  intro s u s' knows run
  obtain ⟨⟨outcome, restarts⟩, s₁, staged, run⟩ := Program.exists_of_bind_eq_ok run
  obtain ⟨stopped, s₂, attempted, run⟩ := Program.exists_of_bind_eq_ok run
  obtain ⟨_, s₃, kept, run⟩ := Program.exists_of_bind_eq_ok run
  have attempting : Leads (Later env) env
      (liftM (Session.attempt (stop restarts)) : ContextAct (Outcome Unit)) :=
    later_liftM_session (Session.leads_attempt (stops restarts))
  have after := attempting.of_run attempted
  unfold ofOutcome at kept run
  cases kept
  cases run
  obtain ⟨later, refused⟩ := refused_of_inStages c h knows staged
  refine ⟨trans_of _ later after, ?_⟩
  have whole := refused.append after (.nil after.history)
  rw [List.append_nil] at whole
  exact whole

/-- Bob's service may not write, then there is a stage in which nothing is denied, then it may
not read, and adding takes reading. -/
def bobDenials (service : ProgramId) (ds : DatasetId) : List (List Denial) :=
  let atService {α : Type} (operation : RestClient → Url → Session α) : Denial :=
    .of bob fun client => TableApp.atService c service (operation client)
  let increment := atService fun client url => client.tableIncrement url ds TableApp.increment
  [[atService fun client url => client.tablePut url ds (TableApp.put "col2" "val2"), increment],
   [],
   [atService fun client url => client.tableGet url ds TableApp.get, increment]]

section

variable {c} {α : Type} {known : List (String × RestClient)} {service : ProgramId} {url : Url}
  {client : RestClient}

/-- What is denied at the address of a service is denied at the service. -/
theorem TableApp.demands_denied (address : IsAddress c service url) {user : String}
    (mem : (user, client) ∈ known) {operation : RestClient → Url → Session α}
    (accountable : Accountable id env (operation client url))
    (p : Principal) (e : EntityId) (a : Action) :
    c.Demands env known [.of user fun client => atService c service (operation client)]
      (assertDenied p e a (operation client url)) := by
  have same := atService_eq address (operation client)
  rw [← same] at accountable ⊢
  exact .denied mem accountable p e a

theorem demands_bobStages (mem : (bob, client) ∈ known) (ds : DatasetId)
    (address : TableApp.IsAddress c service url) :
    List.Forall₂ (fun stage ds => c.Demands env known ds stage.2)
      (bobStages c client service ds url) (bobDenials c service ds) := by
  have put (base : Url) (request : TablePut) :
      Accountable id env (client.tablePut base ds request) :=
    client.accountable_tablePut base ds request
  have read {α : Type} (base : Url) (d : Json.Decoder α) (operation : String) (document : Json) :
      Accountable id env (client.callTable base d ds operation document) :=
    client.accountable_callTable base d ds operation document
  have restarted (killed : Nat) : Leads (Later env) env
      (liftM (TableApp.restart c.admin service killed) : ContextAct Url) :=
    later_liftM_session (TableApp.leads_restart c.admin service killed)
  have invalidated : Leads (Later env) env (liftM c.access.invalidate : ContextAct Unit) :=
    later_liftM_session (c.access.admin.accountable_post _ _).onward
  refine .cons ?_ (.cons ?_ (.cons ?_ .nil))
  · refine .skip (later_assertAllowed _ _ _ (read _ _ _ _).onward) fun row => ?_
    refine .skip (later_ofOutcome _) fun _ => ?_
    refine .append (TableApp.demands_denied address mem (put _ _) _ _ _) fun _ => ?_
    refine .append (TableApp.demands_denied address mem (read _ _ _ _) _ _ _) fun _ => ?_
    refine .skip (c.later_grant _ _ _) fun _ => ?_
    exact .done invalidated
  · refine .skip (restarted 1) fun url => ?_
    refine .skip (later_assertAllowed _ _ _ (put _ _).onward) fun _ => ?_
    refine .skip (later_assertAllowed _ _ _ (read _ _ _ _).onward) fun row => ?_
    refine .skip (later_ofOutcome _) fun _ => ?_
    refine .skip (c.later_revoke _ _ _) fun _ => ?_
    refine .skip (c.later_grant _ _ _) fun _ => ?_
    exact .done invalidated
  · refine .skipTo (restarted 2) (fun _ _ _ => TableApp.isAddress_of_restart) fun url address => ?_
    refine .append (TableApp.demands_denied address mem (read _ _ _ _) _ _ _) fun _ => ?_
    exact TableApp.demands_denied address mem (read _ _ _ _) _ _ _

end

/-- Bob's service, and alice's dataset. -/
def serviceDenials : List Denial :=
  let ds := (⟨c.uniqueName "authorization11"⟩ : NamespaceId).dataset "testReadDataset"
  let app := (⟨c.uniqueName "authorization22"⟩ : NamespaceId).app TableApp.app
  (bobDenials c (app.service TableApp.service) ds).flatten

theorem demands_datasetInProgram :
    c.Demands env (adminAtHand c) (serviceDenials c) (datasetInProgram c) := by
  let ds := (⟨c.uniqueName "authorization11"⟩ : NamespaceId).dataset "testReadDataset"
  let app := (⟨c.uniqueName "authorization22"⟩ : NamespaceId).app TableApp.app
  unfold datasetInProgram
  refine .skip (c.later_grantAll _ _) fun _ => ?_
  refine .skip (c.later_grant _ _ _) fun _ => ?_
  refine .skip (c.later_grant _ _ _) fun _ => ?_
  refine .skip (c.later_grant _ _ _) fun _ => ?_
  refine .skip (later_registerEntity _) fun _ => ?_
  refine .skip (later_registerEntity _) fun _ => ?_
  refine .skip (later_createNamespace c.admin _) fun _ => ?_
  refine .skip (later_createNamespace c.admin _) fun _ => ?_
  refine .client fun client1 => ?_
  refine .client fun client2 => ?_
  refine .skip (TableApp.later_start c _ _ _) fun url1 => ?_
  refine .skip (later_liftM_session (Session.leads_attempt
    (client1.accountable_tablePut _ _ _).onward)) fun written => ?_
  refine .skip (later_liftM_session (TableApp.leads_stop c.admin _ 1)) fun _ => ?_
  refine .skip (later_ofOutcome _) fun _ => ?_
  refine .skipTo (TableApp.later_start c _ _ _) (fun _ _ _ => TableApp.isAddress_of_start)
    fun url2 address => ?_
  have stop (n : Nat) : Leads env.Continues env
      (TableApp.stop c.admin (app.service TableApp.service) (n + 1)) :=
    TableApp.leads_stop c.admin _ (n + 1)
  have mem : (bob, client2) ∈ (bob, client2) :: (alice, client1) :: adminAtHand c :=
    List.mem_cons_self
  have refused := demands_stages c (demands_bobStages mem ds address) stop
  exact refused

/-! ### A deployment without privileges -/

/-- What the ledger gains lies within a store. -/
def GainsWithin (S : Store) (s s' : AccessState) : Prop :=
  s'.ledger.entitlements ⊆ s.ledger.entitlements ∪ S

instance {S : Store} : IsPreorder AccessState (GainsWithin S) where
  refl _ := Set.subset_union_left
  trans _ _ _ h h' := h'.trans (Set.union_subset h Set.subset_union_right)

section

variable {α : Type} {S : Store}

theorem gains_liftM (m : Session α) : Leads (GainsWithin S) env (liftM m : AccessAct α) :=
  fun _ => Set.subset_union_left

theorem gains_grant (m : AccessModel) (p : Principal) {e : EntityId} (actions : List Action)
    (within : ∀ x : Entitlement, x.entity = e → x ∈ S) :
    Leads (GainsWithin S) env (m.grant p e actions) := by
  refine .bind (.bind (gains_liftM _) fun _ => ?_) fun _ => gains_liftM _
  intro s
  have recorded := s.ledger.entitlements_recordGrant ⟨e, p, ActionSet.ofList actions⟩
  refine recorded.le.trans (Set.union_subset_union_right _ ?_)
  intro x covered
  exact within x (GrantRequest.mem_covers.1 covered).2.1

theorem gains_session (m : Session α) :
    Leads (InvImage (GainsWithin S) ContextState.access) env (liftM m : ContextAct α) :=
  leads_liftM (gains_liftM m)

theorem gains_update {f : ContextState → ContextState} (same : ∀ s, (f s).access = s.access) :
    Leads (InvImage (GainsWithin S) ContextState.access) env (update f) := by
  intro s
  show GainsWithin S s.access (f s).access
  rw [same]
  exact refl_of _ s.access

theorem gains_registerEntity (e : EntityId) :
    Leads (InvImage (GainsWithin S) ContextState.access) env (Context.registerEntity e) := by
  refine gains_update ?_
  intro s
  split <;> rfl

theorem gains_clientFor (user : String) :
    Leads (InvImage (GainsWithin S) ContextState.access) env (c.clientFor user) := by
  unfold Context.clientFor
  split
  · exact .pure _
  · refine .bind (fun s => refl_of _ s.access) fun s => ?_
    split
    · exact .pure _
    · exact .bind (gains_session _) fun client => .bind (gains_update fun _ => rfl) fun _ =>
        .pure _

theorem gains_deployTestApp (client : RestClient) (app : ApplicationId) (artifact : String)
    (config : Option Json) (owner : Option String) :
    Leads (InvImage (GainsWithin S) ContextState.access) env
      (c.deployTestApp client app artifact config owner) := by
  have deployed (summary : ArtifactSummary) :
      Leads (InvImage (GainsWithin S) ContextState.access) env (do
        client.deployApp app id ⟨summary, config, owner⟩
        Context.registerEntity app.toEntity : ContextAct Unit) :=
    .bind (gains_session _) fun _ => gains_registerEntity app.toEntity
  unfold Context.deployTestApp
  cases c.settings.artifactDirectory with
  | none => exact .bind (.pure _) deployed
  | some directory =>
    exact .bind (gains_session _) fun content => .bind (gains_session _) fun _ =>
      .bind (.pure _) deployed

theorem gains_grantRequirements (p : Principal) {requirements : List Requirement}
    (within : ∀ r ∈ requirements, ∀ x : Entitlement, x.entity = r.1 → x ∈ S) :
    Leads (InvImage (GainsWithin S) ContextState.access) env
      (c.grantRequirements p requirements) := by
  induction requirements with
  | nil => exact .pure ()
  | cons requirement rest ih =>
    obtain ⟨e, a⟩ := requirement
    have first : Leads (GainsWithin S) env (c.access.grant p e [a]) :=
      gains_grant c.access p [a] (within (e, a) List.mem_cons_self)
    refine .bind (leads_liftM first) fun _ => ih ?_
    exact fun r mem => within r (List.mem_cons_of_mem _ mem)

/-- What anybody holds on anything but applications. -/
def elsewhere : Store := {x | ∀ app : ApplicationId, x.entity ≠ app.toEntity}

/-- Creating a namespace gives nobody anything on an application. -/
theorem gains_createNamespaceAsAdmin (ns : TestNamespace) :
    Leads (InvImage (GainsWithin elsewhere) ContextState.access) env
      (c.createNamespaceAsAdmin ns) := by
  refine .bind (gains_grantRequirements c _ ?_) fun _ => .bind (gains_session _) fun _ =>
    gains_update fun s => ?_
  · intro r mem x entity app
    rw [entity]
    unfold Requirement.forCreation at mem
    rcases List.mem_cons.1 mem with rfl | mem
    · exact nofun
    · -- the principal the namespace runs as, if there is one
      split at mem
      · rw [List.mem_singleton.1 mem]
        exact nofun
      · cases mem
  · split <;> rfl

end

theorem not_holds_of_gains {t : Transcript} {s : AccessState}
    (gained : GainsWithin elsewhere (ContextState.start t).access s) (p : Principal)
    (app : ApplicationId) (a : Action) : s.ledger.holds p app.toEntity a = false := by
  refine Bool.eq_false_iff.2 ?_
  intro recorded
  have claimed : ⟨p, app.toEntity, a⟩ ∈ s.ledger.entitlements := recorded
  rcases gained claimed with before | other
  · cases before
  · exact other app rfl

/-- Where nothing is recorded that an operation needs, it is expected to be denied. -/
theorem expect_of_not_holds {l : Ledger} {p : Principal} {e : EntityId} {a : Action}
    (h : l.holds p e a = false) : l.expect p [(e, a)] = .denied [⟨e, a⟩] := by
  unfold Ledger.expect Ledger.missing
  simp [h]

/-- Carol may not deploy. -/
def deploymentDenials : List Denial :=
  let app := c.testNamespace.id.app Purchase.app
  [⟨carol, fun client => c.deployTestApp client app Purchase.artifact none none⟩]

/-- Nothing is recorded for carol on an application, so her deployment is expected to be denied,
and it is not enough that it fails. -/
theorem refused_of_deployAppUnauthorized {t : Transcript} {u : Unit} {s' : ContextState}
    (run : deployAppUnauthorized c env (.start t) = (.ok u, s')) :
    c.RefusedInTurn env s' (deploymentDenials c) t := by
  unfold deployAppUnauthorized at run
  obtain ⟨_, s₁, created, run⟩ := Program.exists_of_bind_eq_ok run
  obtain ⟨client, s₂, loggedIn, run⟩ := Program.exists_of_bind_eq_ok run
  obtain ⟨observed, s₃, probed, run⟩ := Program.exists_of_bind_eq_ok run
  obtain ⟨expectation, s₄, predicted, run⟩ := Program.exists_of_bind_eq_ok run
  obtain ⟨value, s₅, verified, ended⟩ := Program.exists_of_bind_eq_ok run
  rw [probe_apply, Prod.mk.injEq, Except.ok.injEq] at probed
  obtain ⟨rfl, rfl⟩ := probed
  cases predicted
  let app := c.testNamespace.id.app Purchase.app
  let d : Denial := ⟨carol, fun client => c.deployTestApp client app Purchase.artifact none none⟩
  change ofOutcome (Expectation.verify ((d.operation client env s₂).2.access.ledger.expect
    (.user carol) [(app.toEntity, .admin)]) _ (.ofOutcome (d.operation client env s₂).1)) env
    (d.operation client env s₂).2 = _ at verified
  have later₁ := (c.later_createNamespaceAsAdmin c.testNamespace).of_run created
  have later₂ := (c.later_clientFor carol).of_run loggedIn
  have later₃ : Later env s₂ (d.operation client env s₂).2 :=
    c.later_deployTestApp client app Purchase.artifact none none s₂
  -- nobody was granted anything on the application meanwhile
  have unprivileged : (d.operation client env s₂).2.access.ledger.holds (.user carol)
      app.toEntity .admin = false := by
    have gained₁ := (gains_createNamespaceAsAdmin c c.testNamespace).of_run created
    have gained₂ : GainsWithin elsewhere s₁.access s₂.access :=
      (gains_clientFor c carol).of_run loggedIn
    have gained₃ : GainsWithin elsewhere s₂.access (d.operation client env s₂).2.access :=
      gains_deployTestApp c client app Purchase.artifact none none s₂
    exact not_holds_of_gains (trans_of _ gained₁ (trans_of _ gained₂ gained₃)) _ app _
  rw [expect_of_not_holds unprivileged] at verified
  have denied := (Expectation.verify_denied_eq_ok_iff _ _).1 (congrArg Prod.fst verified)
  obtain ⟨-, f, observed⟩ := denied
  obtain ⟨failed, authorization⟩ := Probe.ofOutcome_eq_denied_iff.1 observed
  have account : Accountable ContextState.transcript env (d.operation client) :=
    c.accountable_deployTestApp client app Purchase.artifact none none
  have refused := refusedBetween_of_error (c.clientOf_of_clientFor loggedIn) account failed
    authorization later₃
  -- what follows only looks at what came of it
  obtain rfl : (d.operation client env s₂).2 = s' := by
    have kept : (d.operation client env s₂).2 = s₅ := congrArg Prod.snd verified
    exact kept.trans (congrArg Prod.snd ended)
  exact .cons (later₁.history.trans later₂.history) refused (.nil .refl)

/-! ### No scenario passes in vain -/

/-- **What scenarios demand to be denied**, by their names and in the order of their
operations. -/
def denials : List (String × List Denial) :=
  [("namespace_privileges", namespaceDenials c),
   ("dataset_privileges", datasetDenials c),
   ("stream_privileges", streamDenials c),
   ("dataset_lifecycle_end_to_end", lifecycleDenials c),
   ("deploy_app_unauthorized", deploymentDenials c),
   ("dataset_in_program", serviceDenials c)]

/-- **What a scenario owes to its denials**: it passes only if they were refused in turn, and
fails where nothing is ever refused. -/
def Owes (env : Environment) (t : Transcript) (ds : List Denial) (run : ContextAct Unit) : Prop :=
  ((run env (.start t)).1 = .ok () → c.RefusedInTurn env (run env (.start t)).2 ds t) ∧
    ((∀ u r, (env.respond u r).isRefusal = false) → ∃ f, (run env (.start t)).1 = .error f)

variable {c} in
private theorem owes_of_refused {t : Transcript} {ds : List Denial} {run : ContextAct Unit}
    (something : ds ≠ [])
    (refused : ∀ u s', run env (.start t) = (.ok u, s') → c.RefusedInTurn env s' ds t) :
    Owes c env t ds run := by
  unfold Owes
  rcases ran : run env (.start t) with ⟨f | u, s'⟩
  · exact ⟨nofun, fun _ => ⟨f, rfl⟩⟩
  · have inTurn := refused u s' ran
    refine ⟨fun _ => inTurn, ?_⟩
    intro never
    obtain ⟨d, rest, rfl⟩ := List.exists_cons_of_ne_nil something
    obtain ⟨v, r, refusal⟩ := inTurn.exists_refusal
    rw [never] at refusal
    cases refusal

/-- **No scenario passes in vain.**  In a fresh context, whatever its settings and whatever the
platform answers, each of these scenarios succeeds only if all that it demands to be denied was
refused, one operation after the other.  So it fails on a platform that never refuses anybody. -/
theorem denied_of_pass (env : Environment) (t : Transcript) {name : String} {ds : List Denial}
    (mem : (name, ds) ∈ denials c) :
    ∃ scenario, find? name = some scenario ∧ Owes c env t ds (scenario.run c) := by
  have knows : c.Knows (.start t) (adminAtHand c) := by
    intro x mem
    rw [List.mem_singleton.1 mem]
    exact if_pos rfl
  have owes {run : ContextAct Unit} {ds : List Denial} (something : ds ≠ [])
      (demands : c.Demands env (adminAtHand c) ds run) : Owes c env t ds run :=
    owes_of_refused something fun u s' ran => (demands (.start t) u s' knows ran).2
  simp only [denials, List.mem_cons, List.not_mem_nil, or_false, Prod.mk.injEq] at mem
  rcases mem with ⟨rfl, rfl⟩ | ⟨rfl, rfl⟩ | ⟨rfl, rfl⟩ | ⟨rfl, rfl⟩ | ⟨rfl, rfl⟩ | ⟨rfl, rfl⟩
  · exact ⟨_, rfl, owes nofun (demands_namespacePrivileges c)⟩
  · exact ⟨_, rfl, owes nofun (demands_datasetPrivileges c)⟩
  · exact ⟨_, rfl, owes nofun (demands_streamPrivileges c)⟩
  · exact ⟨_, rfl, owes nofun (demands_datasetLifecycle c)⟩
  · exact ⟨_, rfl, owes_of_refused nofun fun u s' => refused_of_deployAppUnauthorized c⟩
  · exact ⟨_, rfl, owes nofun (demands_datasetInProgram c)⟩

/-- A platform that is asked to let carol deploy after three other requests, and forbids it. -/
theorem denied_of_pass_forbidding :
    let env : Environment :=
      .replying fun t _ => if t.length = 3 then .answered ⟨403, ""⟩
        else .answered ⟨200, "\x7b\"access_token\":\"c\"\x7d"⟩
    let ran := deployAppUnauthorized .local env (.start [])
    ("deploy_app_unauthorized", deploymentDenials .local) ∈ denials .local ∧ ran.1 = .ok () ∧
      Context.local.RefusedInTurn env ran.2 (deploymentDenials .local) [] := by
  intro env ran
  have mem : ("deploy_app_unauthorized", deploymentDenials .local) ∈ denials .local := by
    simp [denials]
  have passed : ran.1 = .ok () := by
    have some_value : ran.1.toOption = some () := by decide +kernel
    cases outcome : ran.1 with
    | ok u => rfl
    | error f =>
      rw [outcome] at some_value
      cases some_value
  obtain ⟨scenario, found, refused, -⟩ := denied_of_pass .local env [] mem
  have registered : find? "deploy_app_unauthorized" =
      some ⟨"deploy_app_unauthorized", .apps, deployAppUnauthorized⟩ := rfl
  rw [registered] at found
  cases found
  exact ⟨mem, passed, refused passed⟩

end Scenario

end AccessHarness
