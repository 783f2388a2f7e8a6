import AccessHarness.Proofs.Access.Asking
import AccessHarness.Proofs.Scenario.Services
import AccessHarness.Scenario.Filesets

/-!
# A service that is stopped on every path

The pipeline scenario starts one service, uses it, and stops it.  This file says that nothing comes
between the start and the stop: no failure, and no other stop.

* `Fileset.serviceIn` — the service.
* `Fileset.Prepares` — what happens before it is started.
* `Fileset.Course` — the three ways a run can go, each with all that happens from the start on.
* `Fileset.roundTrip_stops_service` — every run goes one of them, so a run that started the service
  stopped it, once and last.

### What is load-bearing

**The stop is the step after the attempt.**  What is done while the service runs is attempted as a
whole, so its failures are one outcome; and a client whose start was answered can send the stop
(`RestClient.request_route_iff`).  Nothing else is read off the steps in between but that none of
them stops the service.

**A refresh of the caches goes where the settings say**, which can be any place.  It is the one
request that is not known to differ from a start or a stop of the service.  Refreshes come with the
grants, and there are no grants after the start.
-/

namespace AccessHarness

open Program (Leads)
open Transcript (ExtendsWithin Spared)
open ContextAct (Follows follows_access follows_session follows_ofOutcome)

/-- A state with another history. -/
def ContextState.onward (s : ContextState) (t : Transcript) : ContextState :=
  { s with access := { s.access with transcript := t } }

/-- A session leaves all but the history alone. -/
theorem ContextAct.liftM_session_onward {α : Type} {env : Environment} (m : Session α)
    (s : ContextState) :
    (liftM m : ContextAct α) env s =
      ((m env s.transcript).1, s.onward (m env s.transcript).2) := rfl

namespace Scenario.Fileset

/-- The service that gives access to the datasets in a namespace. -/
def serviceIn (ns : NamespaceId) : ProgramId := (ns.app accessApp).service service

/-! ### What neither starts nor stops the service -/

section

variable {env : Environment} {p : ProgramId}

/-- The demands that change the state of a program. -/
abbrev switches : List Demand := [.start, .stop]

/-- Nothing is started or stopped by a request that reads. -/
theorem spares_of_get {r : Request} (get : r.method = "GET") : r.Spares switches p := by
  refine Request.spares_of_method ?_ (by decide)
  rw [get]
  decide

theorem sends_get_sparing {α : Type} (client : RestClient) (d : Json.Decoder α) (path : String) :
    Session.Sends (Request.Spares switches p) env (client.get d path) :=
  RestClient.sends_get d fun _ sent => spares_of_get (RestClient.request_eq_ok sent).1

theorem sends_waitForPlugins (client : RestClient) (ns : NamespaceId) (version : String) :
    Session.Sends (Request.Spares switches p) env
      (Pipeline.waitForPlugins client ns version) := by
  refine Session.leads_waitUntil (Session.sends_sleep env) _ ?_
  induction Pipeline.requiredPlugins ns version with
  | nil => exact .pure true
  | cons plugin rest ih =>
    obtain ⟨parent, type, name⟩ := plugin
    refine .bind (sends_get_sparing client _ _) fun plugins => ?_
    split
    · exact ih
    · exact .pure false

theorem sends_createDataset (client : RestClient) (d : DatasetId)
    (config : DatasetConfiguration) :
    Session.Sends (Request.Spares switches p) env (client.createDataset d config) := by
  refine RestClient.sends_putJson fun r sent => Request.spares_of_method ?_ (by decide)
  rw [(RestClient.request_eq_ok sent).1]
  decide

theorem sends_readFileset (client : RestClient) (url : Url) (name : String) (start stop : Int) :
    Session.Sends (Request.Spares switches p) env
      (Pipeline.readFileset client url name start stop) :=
  .bind (Session.leads_ofOutcome _) fun _ =>
    .bind (client.sends_execute (fun _ _ => spares_of_get rfl) _) fun _ =>
      Session.leads_ofOutcome _

theorem follows_verifyTicker (c : Context) (url : Url) (name : String) (start stop : Int) :
    Follows (Spared switches p) env (verifyTicker c url name start stop) :=
  .bind (follows_session (sends_readFileset c.admin url name start stop)) fun _ =>
    follows_ofOutcome _

/-- Whoever starts a program does not stop another. -/
theorem spares_stop_of_start {p' : ProgramId} {r : Request} (made : r.Makes .start p') :
    r.Spares [.stop] p :=
  made.spares (.inr (by decide))

theorem Spared.stop {t t' : Transcript} (h : Spared switches p t t') : Spared [.stop] p t t' :=
  h.mono fun _ asks => asks.mono fun _ spares d stop => spares d (List.mem_cons_of_mem _ stop)

theorem follows_stop {α : Type} {m : ContextAct α} (h : Follows (Spared switches p) env m) :
    Follows (Spared [.stop] p) env m := Leads.mono Spared.stop h

theorem follows_runPipeline (c : Context) {ns : NamespaceId} {app : String}
    (inside : Route.IsName ns.name) (own : Route.IsName app) (version : String)
    (config : BatchConfig) (start : Int) :
    Follows (Spared [.stop] p) env (runPipeline c (ns.app app) version config start) := by
  have routes : ∀ d : Demand, ∀ s ∈ d.route ((ns.app app).workflow Pipeline.workflow),
      Route.IsName s := Demand.isName_of_mem_route inside own (by decide)
  refine .bind (follows_session (c.admin.sends_deployApp _ _ _).sparing) fun _ => ?_
  refine .bind (Context.follows_registerEntity _) fun _ => ?_
  refine .bind (follows_session (Session.Sends.weaken (fun _ => spares_stop_of_start)
    (RestClient.sends_startProgram routes _))) fun _ => ?_
  exact .bind (follows_session (c.admin.sends_waitForRun _ .completed _)) fun _ => .pure _

/-- **Nothing that is done while the service runs stops it.** -/
theorem follows_whileRunning (c : Context) (engine : Engine) {ns : NamespaceId}
    (inside : Route.IsName ns.name) (version : String) (service : ProgramId) :
    Follows (Spared [.stop] p) env (whileRunning c engine ns version service) := by
  have probed (w : WaitSpec) :
      Session.Sends (Request.Spares switches p) env (c.admin.serviceUrl service w) :=
    RestClient.leads_serviceUrl_of_probe (Session.sends_sleep env) w
      (RestClient.sends_probe fun _ sent => spares_of_get (RestClient.request_eq_ok sent).1)
  refine .bind (follows_session (c.admin.sends_waitForRun _ .running _)) fun _ => ?_
  refine .bind (follows_stop (follows_session (probed _))) fun url => ?_
  refine .bind (follows_session (c.admin.sends_tablePut _ _ _).sparing) fun _ => ?_
  refine .bind (follows_session Session.sends_timeOfDay) fun now => ?_
  refine .bind (follows_ofOutcome _) fun config => ?_
  refine .bind (follows_runPipeline c inside (by decide) _ _ _) fun _ => ?_
  refine .bind (follows_ofOutcome _) fun config => ?_
  refine .bind (follows_runPipeline c inside (by decide) _ _ _) fun _ => ?_
  refine .bind (follows_stop (follows_verifyTicker c url _ _ _)) fun _ => ?_
  exact follows_stop (follows_verifyTicker c url _ _ _)

end

/-! ### How a run can go -/

/-- **What happens before the service is started**: it is neither started nor stopped, unless a
refresh of the caches is sent there. -/
abbrev Prepares (c : Context) (p : ProgramId) : Transcript → Transcript → Prop :=
  ExtendsWithin fun x => c.access.Refreshes x ∨ x.Asks (Request.Spares switches p)

theorem prepares_of_spared {c : Context} {p : ProgramId} {t t' : Transcript}
    (h : Spared switches p t t') : Prepares c p t t' := h.mono fun _ => .inr

/-- **How a run can go** from a state on: how it ends, and with which history. -/
inductive Course (engine : Engine) (c : Context) (ns : NamespaceId) (env : Environment)
    (s : ContextState) : Outcome Unit → Transcript → Prop
  /-- It fails before the service is started. -/
  | unstarted (f : Fault) (t : Transcript) (before : Prepares c (serviceIn ns) s.transcript t) :
      Course engine c ns env s (.error f) t
  /-- The service is not started when it is asked to, and nothing follows. -/
  | refused (f : Fault) (t : Transcript) (start : Request)
      (before : Prepares c (serviceIn ns) s.transcript t)
      (made : start.Makes .start (serviceIn ns))
      (refusal : (env.respond t start).isAccepted = false) :
      Course engine c ns env s (.error f) (env.after t start)
  /-- The service is started and used, and stopped after that.  The outcome is that of the use if
  it failed, and that of the stop otherwise. -/
  | stopped (s₀ : ContextState) (version : String) (start stop : Request)
      (used : Outcome Unit × ContextState)
      (before : Prepares c (serviceIn ns) s.transcript s₀.transcript)
      (starts : start.Makes .start (serviceIn ns))
      (accepted : (env.respond s₀.transcript start).isAccepted = true)
      (use : whileRunning c engine ns version (serviceIn ns) env
        (s₀.onward (env.after s₀.transcript start)) = used)
      (between : Spared [.stop] (serviceIn ns) (env.after s₀.transcript start) used.2.transcript)
      (stops : stop.Makes .stop (serviceIn ns)) :
      Course engine c ns env s
        (used.1.bind fun _ => (env.respond used.2.transcript stop).outcome.map fun _ => ())
        (env.after used.2.transcript stop)

section

variable {engine : Engine} {c : Context} {ns : NamespaceId} {env : Environment}

/-- What is done before the start may come in front. -/
theorem Course.after {s s₁ : ContextState} {o : Outcome Unit} {t : Transcript}
    (first : Prepares c (serviceIn ns) s.transcript s₁.transcript)
    (h : Course engine c ns env s₁ o t) : Course engine c ns env s o t := by
  cases h with
  | unstarted f t before => exact .unstarted f t (trans_of _ first before)
  | refused f t start before made refusal =>
    exact .refused f t start (trans_of _ first before) made refusal
  | stopped s₀ version start stop used before starts accepted use between stops =>
    exact .stopped s₀ version start stop used (trans_of _ first before) starts accepted use
      between stops

/-- A program whose runs go in one of these ways. -/
def Courses (engine : Engine) (c : Context) (ns : NamespaceId) (env : Environment)
    (m : ContextAct Unit) : Prop :=
  ∀ s, Course engine c ns env s (m env s).1 (m env s).2.transcript

theorem Courses.bind {α : Type} {m : ContextAct α} {k : α → ContextAct Unit}
    (hm : Follows (Prepares c (serviceIn ns)) env m)
    (hk : ∀ a, Courses engine c ns env (k a)) : Courses engine c ns env (m >>= k) := by
  intro s
  have first : Prepares c (serviceIn ns) s.transcript (m env s).2.transcript := hm s
  rw [Program.bind_apply]
  rcases run : m env s with ⟨f | a, s₁⟩ <;> rw [run] at first
  · exact .unstarted f _ first
  · exact (hk a s₁).after first

/-- The service is used and stopped, in this order. -/
def useAndStop (c : Context) (engine : Engine) (ns : NamespaceId) (version : String) :
    ContextAct Unit := do
  let outcome ← ContextAct.attempt (whileRunning c engine ns version (serviceIn ns))
  let stopped ← Session.attempt (c.admin.stopProgram (serviceIn ns))
  ContextAct.ofOutcome outcome
  ContextAct.ofOutcome stopped

/-- **The stop is sent whatever came of the use**, and the first fault of the two is handed on. -/
theorem useAndStop_apply {stop : Request} (sent : c.admin.request "POST"
      (Route.path (Demand.stop.route (serviceIn ns))) .empty = .ok stop) (version : String)
    (s : ContextState) :
    let used := whileRunning c engine ns version (serviceIn ns) env s
    useAndStop c engine ns version env s =
      (used.1.bind fun _ => (env.respond used.2.transcript stop).outcome.map fun _ => (),
        used.2.onward (env.after used.2.transcript stop)) := by
  have posted (t : Transcript) : c.admin.stopProgram (serviceIn ns) env t =
      ((env.respond t stop).outcome.map fun _ => (), env.after t stop) := by
    show c.admin.post (Route.path (Demand.stop.route (serviceIn ns))) .empty env t = _
    rw [RestClient.post_apply, sent]
  intro used
  unfold used useAndStop Session.attempt
  simp only [Program.bind_apply, ContextAct.attempt_apply, ContextAct.liftM_session_apply, posted]
  rcases whileRunning c engine ns version (serviceIn ns) env s with ⟨f | u, s'⟩
  · rfl
  · rfl

/-- **From the start on.** -/
theorem courses_start (inside : Route.IsName ns.name) (version : String) :
    Courses engine c ns env (do
      c.admin.startProgram (serviceIn ns) OrderedMap.empty
      useAndStop c engine ns version) := by
  intro s
  have routes : ∀ d : Demand, ∀ s ∈ d.route (serviceIn ns), Route.IsName s :=
    Demand.isName_of_mem_route inside (by decide) (by decide)
  have posted : c.admin.startProgram (serviceIn ns) OrderedMap.empty =
      c.admin.post (Route.path (Demand.start.route (serviceIn ns))) .empty := rfl
  rw [posted, Program.bind_apply, ContextAct.liftM_session_onward]
  rcases c.admin.post_cases (Demand.start.route (serviceIn ns)) .empty env s.transcript with
    ⟨f, run, -⟩ | ⟨start, sent, ended⟩
  · rw [run]
    exact .unstarted f _ (refl_of _ _)
  · have starts : start.Makes .start (serviceIn ns) :=
      RestClient.makes_of_request routes (d := .start) sent
    rcases ended with ⟨f, run, refusal⟩ | ⟨run, accepted⟩ <;> rw [run]
    · exact .refused f _ start (refl_of _ _) starts refusal
    · -- who could send the start can send the stop
      obtain ⟨stop, sent'⟩ := (c.admin.request_route_iff "POST"
        (Demand.stop.route (serviceIn ns)) .empty).2
          ((c.admin.request_route_iff "POST" _ .empty).1 ⟨start, sent⟩)
      have stops : stop.Makes .stop (serviceIn ns) :=
        RestClient.makes_of_request routes (d := .stop) sent'
      have between : Spared [.stop] (serviceIn ns) (env.after s.transcript start)
          (whileRunning c engine ns version (serviceIn ns) env
            (s.onward (env.after s.transcript start))).2.transcript :=
        follows_whileRunning c engine inside version (serviceIn ns)
          (s.onward (env.after s.transcript start))
      simp only
      rw [useAndStop_apply sent']
      exact .stopped s version start stop _ (refl_of _ _) starts accepted rfl between stops

/-- Grants prepare, with their refreshes. -/
theorem advances_prepares (c : Context) (p : ProgramId) :
    c.access.Advances (Prepares c p) env where
  granted request :=
    Leads.mono prepares_of_spared (c.access.admin.sends_grantPrivileges request).sparing
  revoked request :=
    Leads.mono prepares_of_spared (c.access.admin.sends_revokePrivileges request).sparing
  listed principal :=
    Leads.mono prepares_of_spared (c.access.admin.sends_listPrivileges principal).sparing
  refreshed := Leads.mono (fun within => within.mono fun _ => .inl) c.access.leads_refresh_within

/-- **Every run goes one of the three ways.** -/
theorem courses_roundTrip (engine : Engine) (c : Context) (env : Environment) :
    Courses engine c ⟨c.uniqueName "etl"⟩ env (roundTrip engine c) := by
  have letter : 'e' ∈ "etl".toList := by
    decide
  have inside : Route.IsName (c.uniqueName "etl") := isName_uniqueName_of_mem c letter (by decide)
  have other : accessApp ∉ "runs" :: Demand.words := by
    decide
  have prepares {α : Type} {m : ContextAct α} {p : ProgramId}
      (h : Follows (Spared switches p) env m) : Follows (Prepares c p) env m :=
    Leads.mono prepares_of_spared h
  unfold roundTrip
  refine .bind (Context.follows_grantAll (advances_prepares c _) _ _) fun _ => ?_
  refine .bind (prepares (Context.follows_createNamespace
    (c.admin.sends_createNamespace _).sparing)) fun _ => ?_
  refine .bind (prepares (follows_session (sends_get_sparing c.admin _ _))) fun v => ?_
  refine .bind (prepares (follows_session (sends_waitForPlugins c.admin _ _))) fun _ => ?_
  refine .bind (prepares (follows_session (sends_createDataset c.admin _ _))) fun _ => ?_
  refine .bind (prepares (Context.follows_deployTestApp
    (fun path => Session.sends_fileContent path)
    (fun _ content => (c.admin.sends_addArtifact other [] content).sparing)
    (fun request => (c.admin.sends_deployApp _ id request).sparing) none none)) fun _ => ?_
  exact courses_start inside v.version

end

/-- Before the service is started nothing but a refresh can start or stop it. -/
theorem Prepares.refreshes {c : Context} {p : ProgramId} {t t' : Transcript}
    (h : Prepares c p t t') :
    ∀ x ∈ t'.since t, x.Started p ∨ x.StopAsked p → c.access.Refreshes x := by
  intro x mem switched
  rcases h.within x mem with refreshes | spared
  · exact refreshes
  · rcases switched with started | stopped
    · exact absurd started (Event.not_started_of_asks spared (by decide))
    · exact absurd stopped (Event.not_stopAsked_of_asks spared (by decide))

/-- A request that starts a program does not ask it to stop. -/
theorem not_stopAsked_of_start {p : ProgramId} {r : Request} (made : r.Makes .start p)
    (reply : Reply) : ¬ (Event.exchanged r reply).StopAsked p := by
  rintro ⟨r', reply', same, made'⟩
  cases same
  exact absurd (made.eq made').1 (by decide)

section

variable {engine : Engine} {c : Context} {ns : NamespaceId} {env : Environment} {s : ContextState}
  {o : Outcome Unit} {t : Transcript}

theorem Course.grows (h : Course engine c ns env s o t) : s.transcript <:+ t := by
  cases h with
  | unstarted f t before => exact before.grows
  | refused f t start before made refusal => exact before.grows.trans (env.suffix_after t start)
  | stopped s₀ version start stop used before starts accepted use between stops =>
    exact before.grows.trans ((env.suffix_after _ start).trans
      (between.grows.trans (env.suffix_after _ stop)))

/-- **A service that is started is stopped once from then on, and last**; one that is not, is not
stopped. -/
theorem Course.once (h : Course engine c ns env s o t) :
    (∃ stop between start before,
        t.since s.transcript = stop :: (between ++ start :: before) ∧
        start.Started (serviceIn ns) ∧ stop.StopAsked (serviceIn ns) ∧
        (∀ x ∈ between, ¬ x.StopAsked (serviceIn ns)) ∧
        ∀ x ∈ before, x.Started (serviceIn ns) ∨ x.StopAsked (serviceIn ns) →
          c.access.Refreshes x) ∨
      ((∃ f, o = .error f) ∧
        ∀ x ∈ t.since s.transcript, x.Started (serviceIn ns) ∨ x.StopAsked (serviceIn ns) →
          c.access.Refreshes x) := by
  cases h with
  | unstarted f t before => exact .inr ⟨⟨f, rfl⟩, before.refreshes⟩
  | refused f t start before made refusal =>
    have unstarted : ¬ (Event.exchanged start (env.respond t start)).Started (serviceIn ns) := by
      rintro ⟨r, reply, same, -, accepted⟩
      cases same
      rw [refusal] at accepted
      cases accepted
    refine .inr ⟨⟨f, rfl⟩, ?_⟩
    rw [Transcript.since_trans before.grows (env.suffix_after t start), env.since_after,
      List.singleton_append, List.forall_mem_cons]
    refine ⟨?_, before.refreshes⟩
    rintro (started | stopped)
    · exact absurd started unstarted
    · exact absurd stopped (not_stopAsked_of_start made _)
  | stopped s₀ version start stop used before starts accepted use between stops =>
    have started := before.grows.trans (env.suffix_after s₀.transcript start)
    have whole : (env.after used.2.transcript stop).since s.transcript =
        .exchanged stop (env.respond used.2.transcript stop) ::
          (used.2.transcript.since (env.after s₀.transcript start) ++
            .exchanged start (env.respond s₀.transcript start) ::
              s₀.transcript.since s.transcript) := by
      rw [Transcript.since_trans (started.trans between.grows) (env.suffix_after _ stop),
        Transcript.since_trans started between.grows,
        Transcript.since_trans before.grows (env.suffix_after _ start), env.since_after,
        env.since_after]
      rfl
    refine .inl ⟨_, _, _, _, whole, ⟨start, _, rfl, starts, accepted⟩, ⟨stop, _, rfl, stops⟩, ?_,
      before.refreshes⟩
    exact fun x mem => Event.not_stopAsked_of_asks (between.within x mem) List.mem_cons_self

end

/-- **The service is stopped on every path.**  Whatever the engine, the settings and the answers, a
run goes one of the three ways of `Course`: the service is not started, and then the run fails and
nothing is stopped; or it is started, and then it is stopped exactly once from there on, after
everything else, and the outcome is the first fault in between or else that of the stop.  That is
also what the requests of the run say by themselves, but for refreshes of the caches before the
start, which go where the settings say. -/
theorem roundTrip_stops_service (engine : Engine) (c : Context) (env : Environment)
    (s : ContextState) :
    let p := serviceIn ⟨c.uniqueName "etl"⟩
    let ran := roundTrip engine c env s
    let during := ran.2.transcript.since s.transcript
    Course engine c ⟨c.uniqueName "etl"⟩ env s ran.1 ran.2.transcript ∧
      ran.2.transcript = during ++ s.transcript ∧
      ((∃ stop between start before, during = stop :: (between ++ start :: before) ∧
          start.Started p ∧ stop.StopAsked p ∧ (∀ x ∈ between, ¬ x.StopAsked p) ∧
          ∀ x ∈ before, x.Started p ∨ x.StopAsked p → c.access.Refreshes x) ∨
        ((∃ f, ran.1 = .error f) ∧
          ∀ x ∈ during, x.Started p ∨ x.StopAsked p → c.access.Refreshes x)) := by
  intro p ran during
  have course : Course engine c ⟨c.uniqueName "etl"⟩ env s ran.1 ran.2.transcript :=
    courses_roundTrip engine c env s
  exact ⟨course, Transcript.eq_since_append course.grows, course.once⟩

end Scenario.Fileset

end AccessHarness
