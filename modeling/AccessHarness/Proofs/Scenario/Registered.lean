import AccessHarness.Proofs.Scenario.Calls
import AccessHarness.Proofs.Scenario.Gathering
import AccessHarness.Scenario.Registry

/-!
# What scenarios forget

A scenario may stop at any step, and what it created until then is cleaned up by the registry of its
context.  Ten of the eleven scenarios register everything they create, wherever they stop; this file
says so, and what exactly the other one forgets.

* `Scenario.keeps_of_mem_registry` — the ten, each by one look at its steps.
* `Scenario.Tries` — a scenario that has a user try to create something, and registers nothing then.
* `Scenario.registers_lasting_iff` — whether anything is forgotten, for all eleven.
* `Scenario.namespacePrivileges_forgets` — that does happen.

### What is load-bearing

**A step is looked at once, however it ends.**  Each of the lemmas below follows the text of its
scenario, with one rule for each kind of step; a step that fails ends the scenario in a state in
which the registry is up to date.

**`Scenario.namespacePrivileges` asks for its namespace twice**: first bob does, who is expected to
be refused, then the administrator, who registers it.  If bob is not refused the scenario fails
before it comes to the administrator.  This is why the exception is stated by the requests: the
first one was carried out, and none after it.

**The suffix of a run makes its names names.**  A namespace called like one of the dot forms would
be cut out of the path of its own request, and the request would create something else, or nothing.
-/

namespace AccessHarness

open Program (Leads)
open ContextState (Idles Keeps Gathers GathersWith KeptIdly)
open Session (CreatesNothing)

namespace Context

variable {c : Context} (named : ∃ ch ∈ c.suffix.toList, ch ≠ '.')

include named

/-- A name with the suffix of a run in it can stand in a path. -/
theorem isName_uniqueName (start : String) : Route.IsName (c.uniqueName start) := by
  obtain ⟨ch, mem, other⟩ := named
  refine Route.isName_of_mem ?_ other
  unfold uniqueName
  rw [String.toList_append]
  exact List.mem_append_right _ mem

theorem isName_testNamespace : Route.IsName c.testNamespace.id.name := by
  have name : c.testNamespace.id.name = c.uniqueName c.settings.testNamespace.name := by
    unfold testNamespace
    split <;> rfl
  rw [name]
  exact isName_uniqueName named _

end Context

namespace Scenario

open Context ContextAct

variable {env : Environment}

/-! ### What scenarios have in common -/

theorem gathers_createNamespaceAsAdmin (c : Context) (ns : TestNamespace)
    (name : Route.IsName ns.id.name) : Leads Gathers env (c.createNamespaceAsAdmin ns) :=
  .bind (c.idle_grantRequirements _ _) fun _ => gathers_createNamespace c.admin ns name

namespace TableApp

section

variable (client : RestClient) (service : ProgramId)

theorem createsNothing_stop (runs : Nat) : CreatesNothing env (stop client service runs) :=
  .bind (client.createsNothing_post _ _) fun _ =>
    .bind (RestClient.leads_waitForRuns_of_programRuns (Session.createsNothing_sleep env) _ runs
      (client.createsNothing_get _ _)) fun _ => .pure _

theorem createsNothing_restart (killed : Nat) :
    CreatesNothing env (restart client service killed) :=
  .bind (createsNothing_stop client service killed) fun _ =>
    .bind (client.createsNothing_post _ _) fun _ =>
      .bind (client.createsNothing_waitForRun service .running _) fun _ =>
        client.createsNothing_serviceUrl service _

end

theorem gathers_start (c : Context) (app : ApplicationId) (dataset owner : String)
    (ns : Route.IsName app.ns.name) (name : Route.IsName app.name) :
    Leads Gathers env (start c app dataset owner) :=
  .bind (gathers_deployTestApp c.admin c app _ _ _ ns name) fun _ =>
    .bind (idle_session (c.admin.createsNothing_post _ _)) fun _ =>
      .bind (idle_session (c.admin.createsNothing_waitForRun _ .running _)) fun _ =>
        .bind (idle_ofOutcome _) fun _ =>
          idle_session (c.admin.createsNothing_serviceUrl _ _)

end TableApp

theorem gathers_bobStages (c : Context) (client : RestClient) (service : ProgramId)
    (ds : DatasetId) (url : Url) :
    ∀ stage ∈ bobStages c client service ds url, Leads Gathers env stage.2 := by
  have restarted (killed : Nat) : Leads Gathers env
      (liftM (TableApp.restart c.admin service killed) : ContextAct Url) :=
    idle_session (TableApp.createsNothing_restart c.admin service killed)
  have invalidated : Leads Gathers env (liftM c.access.invalidate : ContextAct Unit) :=
    idle_session (c.access.admin.createsNothing_post _ _)
  unfold bobStages
  simp only [List.forall_mem_cons, List.not_mem_nil, false_implies, implies_true, and_true]
  refine ⟨?_, ?_, ?_⟩
  · refine .bind (idle_assertAllowed _ _ _ (client.createsNothing_callTable _ _ _ _ _))
      fun row => ?_
    refine .bind (idle_ofOutcome _) fun _ => ?_
    refine .bind (idle_assertDenied _ _ _ (client.createsNothing_tablePut _ _ _)) fun _ => ?_
    refine .bind (idle_assertDenied _ _ _ (client.createsNothing_callTable _ _ _ _ _))
      fun _ => ?_
    refine .bind (c.idle_grant _ _ _) fun _ => ?_
    exact invalidated
  · refine .bind (restarted 1) fun url => ?_
    refine .bind (idle_assertAllowed _ _ _ (client.createsNothing_tablePut _ _ _)) fun _ => ?_
    refine .bind (idle_assertAllowed _ _ _ (client.createsNothing_callTable _ _ _ _ _))
      fun row => ?_
    refine .bind (idle_ofOutcome _) fun _ => ?_
    refine .bind (idle_liftM (c.access.advances_isBarren.revoke _ _ _)) fun _ => ?_
    refine .bind (c.idle_grant _ _ _) fun _ => ?_
    exact invalidated
  · refine .bind (restarted 2) fun url => ?_
    refine .bind (idle_assertDenied _ _ _ (client.createsNothing_callTable _ _ _ _ _))
      fun _ => ?_
    exact idle_assertDenied _ _ _ (client.createsNothing_callTable _ _ _ _ _)

namespace Fileset

theorem gathers_runPipeline (c : Context) (app : ApplicationId) (version : String)
    (config : BatchConfig) (start : Int) (ns : Route.IsName app.ns.name)
    (name : Route.IsName app.name) :
    Leads Gathers env (runPipeline c app version config start) :=
  .bindTwo (Context.gathers_deployApp c.admin app _ _ ns name) fun _ =>
    .bind (idle_session (c.admin.createsNothing_post _ _)) fun _ =>
      .bind (idle_session (c.admin.createsNothing_waitForRun _ .completed _)) fun _ => .pure _

theorem gathers_verifyTicker (c : Context) (url : Url) (name : String) (start stop : Int) :
    Leads Gathers env (verifyTicker c url name start stop) :=
  .bind (idle_session (Pipeline.createsNothing_readFileset c.admin url name start stop))
    fun _ => idle_ofOutcome _

theorem gathers_whileRunning (c : Context) (engine : Engine) (ns : NamespaceId)
    (version : String) (service : ProgramId) (name : Route.IsName ns.name) :
    Leads Gathers env (whileRunning c engine ns version service) := by
  have first : Route.IsName firstApp := by decide
  have second : Route.IsName secondApp := by decide
  unfold whileRunning
  refine .bind (idle_session (c.admin.createsNothing_waitForRun _ .running _)) fun _ => ?_
  refine .bind (idle_session (c.admin.createsNothing_serviceUrl _ _)) fun url => ?_
  refine .bind (idle_session (c.admin.createsNothing_tablePut _ _ _)) fun _ => ?_
  refine .bind (idle_session Session.createsNothing_timeOfDay) fun now => ?_
  refine .bind (idle_ofOutcome _) fun config => ?_
  refine .bind (gathers_runPipeline c _ _ _ _ name first) fun _ => ?_
  refine .bind (idle_ofOutcome _) fun config => ?_
  refine .bind (gathers_runPipeline c _ _ _ _ name second) fun _ => ?_
  refine .bind (gathers_verifyTicker c _ _ _ _) fun _ => ?_
  exact gathers_verifyTicker c _ _ _ _

end Fileset

variable {c : Context} (named : ∃ ch ∈ c.suffix.toList, ch ≠ '.')

include named

/-! ### Privileges -/

theorem keeps_listPrivileges : Leads Keeps env (listPrivileges c) := by
  have ns := isName_testNamespace named
  unfold listPrivileges
  refine .bind (c.idle_grantRequirements _ _) fun _ => ?_
  refine .bind (gathers_createNamespace c.admin _ ns).keeps fun _ => ?_
  refine .bind (idle_session (c.access.admin.createsNothing_get _ _)) fun held => ?_
  refine .bind (idle_ofOutcome _) fun _ => ?_
  refine .bind (c.idle_grant _ _ _) fun _ => ?_
  refine .bind (c.idle_grant _ _ _) fun _ => ?_
  refine .bind (c.idle_grant _ _ _) fun _ => ?_
  refine .bind (idle_session (c.access.admin.createsNothing_get _ _)) fun held => ?_
  refine .bind (idle_ofOutcome _) fun _ => ?_
  refine .bind idle_state fun s => ?_
  refine .bind (idle_ofOutcome _) fun _ => ?_
  refine .bind (keeps_deleteNamespace c.admin _ ns) fun _ => ?_
  refine .bind (idle_session (c.admin.createsNothing_namespaceExists _)) fun present => ?_
  refine .bind (idle_ofOutcome _) fun _ => ?_
  refine .bind (idle_session (c.access.admin.createsNothing_get _ _)) fun held => ?_
  exact idle_ofOutcome _

theorem gathers_datasetPrivileges : Leads Gathers env (datasetPrivileges c) := by
  have ns := isName_testNamespace named
  have name : Route.IsName "testDatasetPrivileges" := by decide
  unfold datasetPrivileges
  refine .bind (c.idle_grant _ _ _) fun _ => ?_
  refine .bind (c.idle_grant _ _ _) fun _ => ?_
  refine .bind (gathers_createNamespaceAsAdmin c _ ns) fun _ => ?_
  refine .bindTwo (gathers_createDataset c.admin _ _ ns name) fun _ => ?_
  refine .bind (idle_session (c.admin.createsNothing_datasetExists _)) fun present => ?_
  refine .bind (idle_ofOutcome _) fun _ => ?_
  refine .bind (idle_session (c.admin.createsNothing_get _ _)) fun visible => ?_
  refine .bind (idle_ofOutcome _) fun _ => ?_
  refine .bind (idle_session (c.admin.createsNothing_get _ _)) fun _ => ?_
  refine .bind (idle_session (c.admin.createsNothing_post _ _)) fun _ => ?_
  refine .bind (idle_session (c.admin.createsNothing_updateDataset _ _ ns name)) fun _ => ?_
  refine .bind (c.idle_clientFor _) fun aliceClient => ?_
  refine .bind (idle_assertDenied _ _ _ (aliceClient.createsNothing_datasetExists _)) fun _ => ?_
  refine .bind (c.idle_clientFor _) fun eveClient => ?_
  refine .bind (idle_assertAllowed _ _ _ (eveClient.createsNothing_datasetExists _))
    fun present => ?_
  refine .bind (idle_ofOutcome _) fun _ => ?_
  refine .bind (idle_assertAllowed _ _ _ (eveClient.createsNothing_get _ _)) fun visible => ?_
  refine .bind (idle_ofOutcome _) fun _ => ?_
  refine .bind (idle_assertAllowed _ _ _ (eveClient.createsNothing_get _ _)) fun _ => ?_
  refine .bind (idle_assertDenied _ _ _ (eveClient.createsNothing_post _ _)) fun _ => ?_
  refine .bind (idle_assertDenied _ _ _ (eveClient.createsNothing_updateDataset _ _ ns name))
    fun _ => ?_
  refine .bind (idle_assertDenied _ _ _ (eveClient.createsNothing_delete _)) fun _ => ?_
  exact idle_assertAllowed _ _ _ (c.admin.createsNothing_delete _)

theorem gathers_streamPrivileges : Leads Gathers env (streamPrivileges c) := by
  have ns := isName_testNamespace named
  have name : Route.IsName "testStreamPrivileges" := by decide
  unfold streamPrivileges
  refine .bind (c.idle_grant _ _ _) fun _ => ?_
  refine .bind (c.idle_grant _ _ _) fun _ => ?_
  refine .bind (c.idle_grant _ _ _) fun _ => ?_
  refine .bind (gathers_createNamespaceAsAdmin c _ ns) fun _ => ?_
  refine .bindTwo (gathers_createStream c.admin _ ns name) fun _ => ?_
  refine .bind (idle_session (c.admin.createsNothing_get _ _)) fun visible => ?_
  refine .bind (idle_ofOutcome _) fun _ => ?_
  refine .bind (idle_session (c.admin.createsNothing_get _ _)) fun _ => ?_
  refine .bind (idle_session (c.admin.createsNothing_post _ _)) fun _ => ?_
  refine .bind (c.idle_clientFor _) fun bobClient => ?_
  refine .bind (c.idle_clientFor _) fun aliceClient => ?_
  refine .bind (idle_assertDenied _ _ _ (c.admin.createsNothing_post _ _)) fun _ => ?_
  refine .bind (idle_ensureRejected _ _ (c.admin.createsNothing_events _ _ _ _)) fun _ => ?_
  refine .bind (idle_assertAllowed _ _ _ (bobClient.createsNothing_events _ _ _ _)) fun _ => ?_
  refine .bind (idle_assertDenied _ _ _ (bobClient.createsNothing_post _ _)) fun _ => ?_
  refine .bind (idle_assertAllowed _ _ _ (aliceClient.createsNothing_post _ _)) fun _ => ?_
  refine .bind (idle_ensureRejected _ _ (aliceClient.createsNothing_events _ _ _ _)) fun _ => ?_
  refine .bind (idle_assertDenied _ _ _ (bobClient.createsNothing_delete _)) fun _ => ?_
  refine .bind (idle_assertDenied _ _ _ (aliceClient.createsNothing_delete _)) fun _ => ?_
  exact idle_assertAllowed _ _ _ (c.admin.createsNothing_delete _)

theorem gathers_datasetLifecycle : Leads Gathers env (datasetLifecycle c) := by
  have ns := isName_uniqueName named "ns1"
  have name : Route.IsName "ds1" := by decide
  unfold datasetLifecycle
  refine .bind (c.idle_grant _ _ _) fun _ => ?_
  refine .bind (gathers_createNamespace c.admin _ ns) fun _ => ?_
  refine .bind (c.idle_grant _ _ _) fun _ => ?_
  refine .bind (c.idle_clientFor _) fun carolClient => ?_
  refine .bindTwo (gathers_createDataset carolClient _ _ ns name) fun _ => ?_
  refine .bind (idle_assertAllowed _ _ _ (carolClient.createsNothing_datasetExists _))
    fun present => ?_
  refine .bind (idle_ofOutcome _) fun _ => ?_
  refine .bind (idle_liftM (c.access.advances_isBarren.revoke _ _ _)) fun _ => ?_
  refine .bind idle_state fun s => ?_
  refine .bind (idle_ofOutcome _) fun _ => ?_
  exact idle_assertDenied _ _ _ (carolClient.createsNothing_datasetExists _)

/-! ### Applications -/

theorem gathers_deployApp : Leads Gathers env (deployApp c) := by
  have ns := isName_testNamespace named
  have name : Route.IsName Purchase.app := by decide
  have deployed : Leads Gathers env (do
      Context.createNamespace c.admin c.testNamespace
      let carolClient ← c.clientFor carol
      let app := c.testNamespace.id.app Purchase.app
      c.deployTestApp carolClient app Purchase.artifact none none
      ensureRejected shownUnit "carol starts PurchaseFlow without EXECUTE"
        (carolClient.startProgram (app.flow "PurchaseFlow") OrderedMap.empty)) := by
    refine .bind (gathers_createNamespace c.admin _ ns) fun _ => ?_
    refine .bind (c.idle_clientFor _) fun carolClient => ?_
    refine .bind (gathers_deployTestApp carolClient c _ _ _ _ ns name) fun _ => ?_
    exact idle_ensureRejected _ _ (carolClient.createsNothing_post _ _)
  unfold deployApp
  simp only
  split
  · refine .bind (gathers_grantAll c _ _) fun _ => ?_
    refine .bind (gathers_grantAll c _ _) fun _ => ?_
    refine .bind (gathers_grantAll c _ _) fun _ => ?_
    exact deployed
  · refine .bind (gathers_grantAll c _ _) fun _ => ?_
    refine .bind (gathers_grantAll c _ _) fun _ => ?_
    exact deployed

theorem gathers_deployAppUnauthorized : Leads Gathers env (deployAppUnauthorized c) := by
  have ns := isName_testNamespace named
  have name : Route.IsName Purchase.app := by decide
  unfold deployAppUnauthorized
  refine .bind (gathers_createNamespaceAsAdmin c _ ns) fun _ => ?_
  refine .bind (c.idle_clientFor _) fun carolClient => ?_
  have deployed : Leads Gathers env
      (probe (c.deployTestApp carolClient (c.testNamespace.id.app Purchase.app) Purchase.artifact
        none none)) :=
    fun s => gathers_deployTestApp carolClient c _ _ _ _ ns name s
  refine .bind deployed fun observed => ?_
  refine .bind (idle_expect _ _) fun expectation => ?_
  exact .bind (idle_ofOutcome _) fun _ => .pure _

theorem gathers_datasetInProgram : Leads Gathers env (datasetInProgram c) := by
  have ns1 := isName_uniqueName named "authorization11"
  have ns2 := isName_uniqueName named "authorization22"
  have name : Route.IsName TableApp.app := by decide
  unfold datasetInProgram
  refine .bind (gathers_grantAll c _ _) fun _ => ?_
  refine .bind (c.idle_grant _ _ _) fun _ => ?_
  refine .bind (c.idle_grant _ _ _) fun _ => ?_
  refine .bind (c.idle_grant _ _ _) fun _ => ?_
  refine .bind (gathers_registerEntity rfl) fun _ => ?_
  refine .bind (gathers_registerEntity rfl) fun _ => ?_
  refine .bind (gathers_createNamespace c.admin _ ns1) fun _ => ?_
  refine .bind (gathers_createNamespace c.admin _ ns2) fun _ => ?_
  refine .bind (c.idle_clientFor _) fun client1 => ?_
  refine .bind (c.idle_clientFor _) fun client2 => ?_
  refine .bind (TableApp.gathers_start c _ _ _ ns1 name) fun url1 => ?_
  refine .bind (idle_session (Session.leads_attempt
    (client1.createsNothing_tablePut _ _ _))) fun written => ?_
  refine .bind (idle_session (TableApp.createsNothing_stop c.admin _ 1)) fun _ => ?_
  refine .bind (idle_ofOutcome _) fun _ => ?_
  refine .bind (TableApp.gathers_start c _ _ _ ns2 name) fun url2 => ?_
  refine .bind (leads_inStages (gathers_bobStages c client2 _ _ url2) 0) fun staged => ?_
  obtain ⟨outcome, restarts⟩ := staged
  refine .bind (idle_session (Session.leads_attempt
    (TableApp.createsNothing_stop c.admin _ (restarts + 1)))) fun stopped => ?_
  exact .bind (idle_ofOutcome _) fun _ => idle_ofOutcome _

/-! ### Pipelines -/

theorem gathers_pipelinePluginsAvailable : Leads Gathers env (pipelinePluginsAvailable c) :=
  .bind (gathers_createNamespaceAsAdmin c _ (isName_uniqueName named "etl")) fun _ =>
    .bind (idle_session (c.admin.createsNothing_get _ _)) fun _ =>
      idle_session (Pipeline.createsNothing_waitForPlugins c.admin _ _)

namespace Fileset

/-- The source dataset is registered with the plan that is granted for it, and created later. -/
theorem gathers_roundTrip (engine : Engine) : Leads Gathers env (roundTrip engine c) := by
  have ns := isName_uniqueName named "etl"
  have name : Route.IsName accessApp := by decide
  unfold roundTrip
  have sourceName : Route.IsName Pipeline.sourceDataset := by decide
  let source : DatasetId := ⟨⟨c.uniqueName "etl"⟩, Pipeline.sourceDataset⟩
  refine .bindWith (e := source.toEntity) (gathers_grantAll c _ _) ?_ fun _ => ?_
  · intro s u s' run
    refine c.registers_of_grantAll _ _ run ?_ rfl
    unfold plan
    simp only [PrivilegePlan.mem_keys_ofSteps, List.map_cons]
    exact .tail _ (.head _)
  · refine .bind (gathers_createNamespace c.admin _ ns).given fun _ => ?_
    refine .bind (idle_session (c.admin.createsNothing_get _ _)) fun v => ?_
    refine .bind (idle_session (Pipeline.createsNothing_waitForPlugins c.admin _ _)) fun _ => ?_
    refine .bind (gathersWith_createDataset c.admin source .table ns sourceName) fun _ => ?_
    refine .bind (gathers_deployTestApp c.admin c _ _ _ _ ns name).given fun _ => ?_
    refine .bind (idle_session (c.admin.createsNothing_post _ _)) fun _ => ?_
    refine .bind (leads_attempt (gathers_whileRunning c engine _ _ _ ns)).given fun outcome => ?_
    refine .bind (idle_session (Session.leads_attempt
      (c.admin.createsNothing_post _ _))) fun stopped => ?_
    exact .bind (idle_ofOutcome _) fun _ => idle_ofOutcome _

end Fileset

/-! ### A creation that nobody registers -/

section

/-- **A scenario that tries to create a thing and does not register it**, and keeps up with what
happens apart from that. -/
inductive Tries (e : EntityId) (s s' : ContextState) : Prop
  /-- It stopped before that, and had created nothing. -/
  | idle (before : Idles s s')
  /-- The request was sent. -/
  | asked {s₁ s₂ : ContextState} {x : Event} (before : Idles s s₁)
      (step : s₂.transcript = x :: s₁.transcript) (same : s₂.Registers e ↔ s₁.Registers e)
      (asks : x.AsksFor e) (after : Keeps s₂ s')

omit named

theorem Tries.of_idles {e : EntityId} {s s₁ s' : ContextState} (before : Idles s s₁)
    (h : Tries e s₁ s') : Tries e s s' := by
  cases h with
  | idle idles => exact .idle (trans_of Idles before idles)
  | asked idles step same asks after =>
    exact .asked (trans_of Idles before idles) step same asks after

theorem tries_bind {α β : Type} {e : EntityId} {m : ContextAct α} {k : α → ContextAct β}
    (hm : Leads Idles env m) (hk : ∀ a, Leads (Tries e) env (k a)) :
    Leads (Tries e) env (m >>= k) := by
  refine Leads.compose ?_ ?_ hm hk
  · exact .idle
  · exact Tries.of_idles

theorem Tries.grows {e : EntityId} {s s' : ContextState} (h : Tries e s s') :
    s.transcript <:+ s'.transcript := by
  cases h with
  | idle before => exact before.within.grows
  | asked before step same asks after =>
    refine before.within.grows.trans (List.IsSuffix.trans ?_ after.grows)
    rw [step]
    exact List.suffix_cons _ _

/-- **Such a scenario forgets nothing** unless what it tried to create was created then, by nobody
else later, and not removed. -/
theorem Tries.forgets_nothing_iff {ns : String} {s s' : ContextState} (h : Tries (.space ns) s s')
    (fresh : ¬ s.Registers (.space ns)) :
    let during := s'.transcript.since s.transcript
    (∀ e, during.Lasting e → s'.Registers e) ↔ ¬ during.FirstLasts (.space ns) := by
  intro during
  cases h with
  | idle before =>
    have nothing (e : EntityId) : ¬ during.Lasting e :=
      Transcript.not_lasting_of_barren fun x mem => (before.within.within x mem).not_created e
    exact iff_of_true (fun e lasting => absurd lasting (nothing e)) fun first =>
      nothing _ first.lasting
  | @asked s₁ s₂ x before step same asks after =>
    have unregistered : ¬ s₂.Registers (.space ns) := by
      rw [same, ContextState.registers_congr before.namespaces before.entities]
      exact fresh
    have barren (e : EntityId) : ∀ y ∈ s₁.transcript.since s.transcript, ¬ y.AsksFor e :=
      fun y mem => before.within.within y mem e
    have grows : s₁.transcript <:+ s₂.transcript := by
      rw [step]
      exact List.suffix_cons _ _
    have one : s₂.transcript.since s₁.transcript = [x] := by
      rw [step, Transcript.since_cons]
    have whole : during = s'.transcript.since s₂.transcript ++
        x :: s₁.transcript.since s.transcript := by
      show s'.transcript.since s.transcript = _
      rw [Transcript.since_trans (before.within.grows.trans grows) after.grows,
        Transcript.since_trans before.within.grows grows, one]
      rfl
    rw [whole, Transcript.firstLasts_iff asks (barren _)]
    constructor
    · rintro registered ⟨created, kept⟩
      have lasts : (s'.transcript.since s₂.transcript ++
          x :: s₁.transcript.since s.transcript).Lasting (.space ns) :=
        ⟨_, x, _, rfl, created, fun y mem => (kept y mem).2⟩
      rcases after.cause (registered _ lasts) with known | ⟨y, mem, again⟩
      · exact unregistered known
      · exact (kept y mem).1 again
    · intro other e lasting
      -- created later, or by the request that is not registered, or before it
      rw [Transcript.lasting_append, Transcript.lasting_cons] at lasting
      rcases lasting with later | ⟨created | ⟨earlier, -⟩, unremoved⟩
      · exact after.gained later
      · obtain rfl := created.asksFor.eq asks
        by_contra forgotten
        refine other ⟨created, fun y mem => ⟨fun again => ?_, unremoved y mem⟩⟩
        obtain ⟨later, earlier, rest⟩ := List.append_of_mem mem
        refine forgotten (after.gained ⟨later, y, earlier, rest, again, ?_⟩)
        exact fun z mem => unremoved z (rest ▸ List.mem_append_left _ mem)
      · refine absurd earlier (Transcript.not_lasting_of_barren ?_)
        exact fun y mem created => barren e y mem created.asksFor

/-- A failure that is no refusal agrees with no prediction. -/
theorem verify_of_isMute (α : Type) (x : Expectation) (subject : String) {f : Fault}
    (mute : f.IsMute) : ∃ f', x.verify subject (.ofOutcome (.error f : Outcome α)) = .error f' := by
  unfold Probe.ofOutcome
  simp only [mute.1]
  cases x with
  | allowed => exact ⟨f, rfl⟩
  | denied missing => exact ⟨_, rfl⟩

/-- **Creating a namespace to see whether that is allowed** leaves it unregistered. -/
theorem tries_createNamespace {client : RestClient} {ns : TestNamespace}
    (name : Route.IsName ns.id.name) (p : Principal) (requirements : List Requirement)
    (subject : String) {k : Unit → ContextAct Unit} (hk : ∀ u, Leads Keeps env (k u)) :
    Leads (Tries ns.id.toEntity) env
      (verifyPrediction p requirements subject
        (client.createNamespace ns.details : Session Unit) >>= k) := by
  intro s
  rw [Program.bind_apply, verifyPrediction_apply, liftM_session_apply]
  unfold RestClient.createNamespace
  rw [RestClient.putJson_apply]
  cases sent : client.request "PUT" (Route.path ["namespaces", ns.details.name])
      (.json ns.details.toJson) with
  | error f =>
    -- a request that cannot be sent is no refusal, so the scenario stops here
    obtain ⟨f', disagrees⟩ := verify_of_isMute Unit
      (s.access.ledger.expect p requirements) subject (client.isMute_of_request sent)
    simp only [disagrees, Except.map]
    exact .idle (refl_of Idles s)
  | ok r =>
    have creates : r.Creates ns.id.toEntity :=
      RestClient.creates_of_request sent rfl (EntityId.isNamed_space name)
    simp only
    generalize (s.access.ledger.expect p requirements).verify subject _ = verdict
    let s₂ : ContextState :=
      { s with access := { s.access with transcript := env.after s.transcript r } }
    have asks : (Event.exchanged r (env.respond s.transcript r)).AsksFor ns.id.toEntity :=
      ⟨r, _, rfl, creates⟩
    have step : s₂.transcript = .exchanged r (env.respond s.transcript r) :: s.transcript := rfl
    cases verdict with
    | error f => exact .asked (refl_of Idles s) step Iff.rfl asks (refl_of Keeps s₂)
    | ok value => exact .asked (refl_of Idles s) step Iff.rfl asks (hk () s₂)

end

theorem tries_namespacePrivileges (env : Environment) :
    Leads (Tries c.testNamespace.id.toEntity) env (namespacePrivileges c) := by
  have ns := isName_testNamespace named
  have name : Route.IsName "testNamespacePrivileges" := by decide
  unfold namespacePrivileges
  refine tries_bind (c.idle_grantRequirements _ _) fun _ => ?_
  refine tries_bind (c.idle_grant _ _ _) fun _ => ?_
  refine tries_bind (c.idle_grant _ _ _) fun _ => ?_
  refine tries_bind (c.idle_grant _ _ _) fun _ => ?_
  refine tries_bind (c.idle_clientFor _) fun bobClient => ?_
  refine tries_createNamespace ns _ _ _ fun _ => ?_
  refine .bind (leads_verifyPrediction _ _ _ (gathers_createNamespace c.admin _ ns).keeps)
    fun _ => ?_
  refine .bind (idle_assertDenied _ _ _ (bobClient.createsNothing_get _ _)) fun _ => ?_
  refine .bind (c.idle_clientFor _) fun aliceClient => ?_
  refine .bindTwo (gathers_createStream aliceClient _ ns name).keeps fun _ => ?_
  refine .bind (idle_session (c.admin.createsNothing_get _ _)) fun visible => ?_
  refine .bind (idle_ofOutcome _) fun _ => ?_
  refine .bind (idle_expect _ _) fun expectation => ?_
  refine .bind (idle_ofOutcome _) fun _ => ?_
  refine .bind (idle_ensureRejected _ _ (c.admin.createsNothing_delete _)) fun _ => ?_
  refine .bind (idle_session (c.admin.createsNothing_namespaceExists _)) fun present => ?_
  refine .bind (idle_ofOutcome _) fun _ => ?_
  refine .bind (c.idle_clientFor _) fun eveClient => ?_
  refine .bind (idle_assertDenied _ _ _ (eveClient.createsNothing_delete _)) fun _ => ?_
  refine .bind (leads_verifyPrediction _ _ _ (keeps_deleteNamespace aliceClient _ ns))
    fun _ => ?_
  refine .bind (idle_session (c.admin.createsNothing_namespaceExists _)) fun present => ?_
  exact idle_ofOutcome _

/-! ### Nothing is forgotten -/

/-- **Every scenario but one keeps up with what happens.** -/
theorem keeps_of_mem_registry (env : Environment) {scenario : Scenario}
    (mem : scenario ∈ registry) :
    scenario = ⟨"namespace_privileges", .authorization, namespacePrivileges⟩ ∨
      scenario.name ≠ "namespace_privileges" ∧ Leads Keeps env (scenario.run c) := by
  simp only [registry, List.mem_cons, List.not_mem_nil, or_false] at mem
  rcases mem with rfl | rfl | rfl | rfl | rfl | rfl | rfl | rfl | rfl | rfl | rfl
  · exact .inl rfl
  · exact .inr ⟨by decide, keeps_listPrivileges named⟩
  · exact .inr ⟨by decide, (gathers_datasetPrivileges named).keeps⟩
  · exact .inr ⟨by decide, (gathers_streamPrivileges named).keeps⟩
  · exact .inr ⟨by decide, (gathers_datasetLifecycle named).keeps⟩
  · exact .inr ⟨by decide, (gathers_deployApp named).keeps⟩
  · exact .inr ⟨by decide, (gathers_deployAppUnauthorized named).keeps⟩
  · exact .inr ⟨by decide, (gathers_datasetInProgram named).keeps⟩
  · exact .inr ⟨by decide, (gathers_pipelinePluginsAvailable named).keeps⟩
  · exact .inr ⟨by decide, (Fileset.gathers_roundTrip named .mapreduce).keeps⟩
  · exact .inr ⟨by decide, (Fileset.gathers_roundTrip named .spark).keeps⟩

/-- **What a scenario creates and does not remove is registered for cleanup**, whatever the platform
answers and wherever the scenario stops.  The one exception is the namespace of
`namespace_privileges`, if it was created by the first request for it and by no later one. -/
theorem registers_lasting_iff (env : Environment) (t : Transcript) {scenario : Scenario}
    (mem : scenario ∈ registry) :
    let ran := scenario.run c env (.start t)
    let during := ran.2.transcript.since t
    ran.2.transcript = during ++ t ∧
      ((∀ e, during.Lasting e → ran.2.Registers e) ↔
        ¬ (scenario.name = "namespace_privileges" ∧
          during.FirstLasts c.testNamespace.id.toEntity)) := by
  intro ran during
  have whole (grows : t <:+ ran.2.transcript) : ran.2.transcript = during ++ t := by
    obtain ⟨front, split⟩ := grows
    show _ = ran.2.transcript.since t ++ t
    rw [← split, Transcript.since_append]
  rcases keeps_of_mem_registry named env mem with rfl | ⟨other, keeps⟩
  · have tries := tries_namespacePrivileges named env (.start t)
    refine ⟨whole tries.grows, (tries.forgets_nothing_iff List.not_mem_nil).trans ?_⟩
    exact not_congr (and_iff_right rfl).symm
  · have kept : Keeps (.start t) ran.2 := keeps (.start t)
    exact ⟨whole kept.grows, iff_of_true (fun e => kept.gained) fun h => other h.1⟩

end Scenario

/-- A scenario that breaks off right after it has created its namespace: that is registered. -/
theorem Scenario.registers_lasting_iff_unfinished :
    let env : Environment := .replying fun _ _ => .answered ⟨200, ""⟩
    let ran := pipelinePluginsAvailable .localRun env (.start [])
    ran.1.isOk = false ∧ (ran.2.transcript.since []).Lasting (.space "etl1") ∧
      ran.2.Registers (.space "etl1") := by
  intro env ran
  have named : ∃ ch ∈ Context.localRun.suffix.toList, ch ≠ '.' := ⟨'1', by decide, by decide⟩
  have mem : ⟨"pipeline_plugins_available", .etl, pipelinePluginsAvailable⟩ ∈ registry := by
    simp [registry]
  have failed : ran.1.isOk = false := by decide +kernel
  have lasts : (ran.2.transcript.since []).Lasting (.space "etl1") := by decide +kernel
  have account := (registers_lasting_iff named env [] mem).2
  have registered := account.2 fun exception => absurd exception.1 (by decide)
  exact ⟨failed, lasts, registered _ lasts⟩

/-- **A namespace that bob was not expected to create is forgotten**, if he can create it. -/
theorem Scenario.namespacePrivileges_forgets :
    let env : Environment :=
      .replying fun _ _ => .answered ⟨200, "\x7b\"access_token\":\"b\"\x7d"⟩
    let ran := namespacePrivileges .localRun env (.start [])
    ⟨"namespace_privileges", .authorization, namespacePrivileges⟩ ∈ registry ∧
      (ran.2.transcript.since []).Lasting (.space "test1") ∧
      ¬ ran.2.Registers (.space "test1") := by
  intro env ran
  refine ⟨.head _, ?_, ?_⟩
  · decide +kernel
  · decide +kernel

end AccessHarness
