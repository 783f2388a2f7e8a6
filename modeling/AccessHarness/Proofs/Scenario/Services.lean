import AccessHarness.Proofs.Rest.Listings
import AccessHarness.Proofs.Scenario.Calls
import AccessHarness.Proofs.Scenario.Following

/-!
# Services that are left running

A scenario that starts a service ought to stop it, wherever it fails.  One of the eleven starts two
services of its own; this file says when it leaves one of them running.

* `Transcript.Attends` — what is to be shown of a stretch: it leaves a service running exactly if it
  started it and never found it available.
* `Transcript.Halts` — a stretch in which the last word to a service is to stop.
* `Scenario.Befits`, `Scenario.Calm` — what is sent while a service runs, or to have it run.
* `TableApp.opens_start` — starting a service finds it available, or fails before that, and
  does not ask it to stop.
* `Scenario.Climbs`, `Scenario.climbs_bobStages` — stages that lead from number to number, and bob's.
* `Scenario.follows_datasetInProgram` — what comes before the services run.
* `Scenario.leavesRunning_iff` — for both services, wherever the scenario stops.
* `Scenario.datasetInProgram_leaves_running` — that does happen.

### What is load-bearing

**The one way out without a stop is the wait for a service that was started.**  Once a service was
found available, the outcome of everything else is kept until the stop was sent; and a client that
found a service available can send (`RestClient.serviceUrl_cases`).

**Two services are told apart by their namespaces**, which the scenario names itself.  The one
request whose place is not its own is the invalidation of caches: the settings say where that goes.
-/

namespace AccessHarness

open Program (Leads)
open Transcript (ExtendsWithin Outstanding)

/-! ### Stretches of a history -/

namespace Transcript

variable {p : ProgramId} {t t₁ t' : Transcript}

/-- A stretch in which none of some demands is made of a program. -/
abbrev Spared (ds : List Demand) (p : ProgramId) : Transcript → Transcript → Prop :=
  ExtendsWithin (Event.Asks (Request.Spares ds p))

/-- A stretch in which a service is neither asked to stop nor found available. -/
abbrev Unserved (p : ProgramId) : Transcript → Transcript → Prop :=
  ExtendsWithin (fun x => ¬ x.StopAsked p ∧ ¬ x.FoundAvailable p)

/-- **A stretch that leaves a service running exactly if it started it and never found it
available.** -/
structure Attends (p : ProgramId) (t t' : Transcript) : Prop where
  grows : t <:+ t'
  running : (t'.since t).LeavesRunning p ↔
    (∃ x ∈ t'.since t, x.Started p) ∧ ∀ x ∈ t'.since t, ¬ x.FoundAvailable p

/-- **A stretch in which the last word to a program is to stop.** -/
structure Halts (p : ProgramId) (t t' : Transcript) : Prop where
  grows : t <:+ t'
  stopped : Outstanding (Event.StopAsked p) (Event.Started p) (t'.since t)

/-- A stretch in which a service was found available. -/
structure Serves (p : ProgramId) (t t' : Transcript) : Prop where
  grows : t <:+ t'
  found : ∃ x ∈ t'.since t, x.FoundAvailable p

theorem Spared.unserved {ds : List Demand} (h : Spared ds p t t') (stop : .stop ∈ ds)
    (available : .available ∈ ds) : Unserved p t t' := by
  refine ⟨h.grows, ?_⟩
  intro x mem
  have spared := h.within x mem
  exact ⟨Event.not_stopAsked_of_asks spared stop, Event.not_foundAvailable_of_asks spared available⟩

theorem Unserved.serves (before : Unserved p t t₁) (h : Serves p t₁ t') : Serves p t t' := by
  refine ⟨before.grows.trans h.grows, ?_⟩
  obtain ⟨x, mem, found⟩ := h.found
  refine ⟨x, ?_, found⟩
  rw [since_trans before.grows h.grows]
  exact List.mem_append_left _ mem

theorem Halts.of_grows (before : t <:+ t₁) (h : Halts p t₁ t') : Halts p t t' := by
  refine ⟨before.trans h.grows, ?_⟩
  rw [since_trans before h.grows, outstanding_append]
  exact .inl h.stopped

/-- What is stopped stays so, until it is started again. -/
theorem Halts.of_spared (h : Halts p t t₁) (after : Spared [.start] p t₁ t') : Halts p t t' := by
  refine ⟨h.grows.trans after.grows, ?_⟩
  rw [since_trans h.grows after.grows, outstanding_append]
  refine .inr ⟨h.stopped, ?_⟩
  exact fun x mem => Event.not_started_of_asks (after.within x mem) List.mem_cons_self

/-- A service that is never found available nor stopped runs on, if it was started. -/
theorem Unserved.attends (h : Unserved p t t') : Attends p t t' := by
  refine ⟨h.grows, ?_⟩
  have running : (t'.since t).LeavesRunning p ↔ ∃ x ∈ t'.since t, x.Started p :=
    outstanding_iff_exists fun x mem => (h.within x mem).1
  rw [running]
  exact (and_iff_left fun x mem => (h.within x mem).2).symm

/-- What does not concern a service may come before. -/
theorem Attends.of_spared (before : Spared [.start, .available] p t t₁) (h : Attends p t₁ t') :
    Attends p t t' := by
  have unstarted : ∀ x ∈ t₁.since t, ¬ x.Started p := fun x mem =>
    Event.not_started_of_asks (before.within x mem) (by decide)
  have unavailable : ∀ x ∈ t₁.since t, ¬ x.FoundAvailable p := fun x mem =>
    Event.not_foundAvailable_of_asks (before.within x mem) (by decide)
  refine ⟨before.grows.trans h.grows, ?_⟩
  have whole := since_trans before.grows h.grows
  have running : (t'.since t).LeavesRunning p ↔ (t'.since t₁).LeavesRunning p := by
    rw [whole]
    refine outstanding_append.trans (or_iff_left ?_)
    exact fun started => not_outstanding_of_forall unstarted started.1
  have started : (∃ x ∈ t'.since t, x.Started p) ↔ ∃ x ∈ t'.since t₁, x.Started p := by
    rw [whole]
    constructor
    · rintro ⟨x, mem, started⟩
      rcases List.mem_append.1 mem with late | early
      · exact ⟨x, late, started⟩
      · exact absurd started (unstarted x early)
    · rintro ⟨x, mem, started⟩
      exact ⟨x, List.mem_append_left _ mem, started⟩
  have available : (∀ x ∈ t'.since t, ¬ x.FoundAvailable p) ↔
      ∀ x ∈ t'.since t₁, ¬ x.FoundAvailable p := by
    rw [whole, List.forall_mem_append]
    exact and_iff_left unavailable
  rw [running, started, available]
  exact h.running

theorem attends_of_spared (h : Spared [.start, .available] p t t') : Attends p t t' := by
  refine Attends.of_spared h ⟨List.suffix_refl _, ?_⟩
  rw [since_self]
  refine iff_of_false (not_outstanding_of_forall (List.forall_mem_nil _)) ?_
  rintro ⟨⟨x, mem, -⟩, -⟩
  cases mem

/-- **A service that was found available and told to stop is not left running.** -/
theorem Serves.attends (served : Serves p t t₁) (h : Halts p t₁ t') : Attends p t t' := by
  have halts := h.of_grows served.grows
  refine ⟨halts.grows, iff_of_false ?_ ?_⟩
  · exact halts.stopped.not_reverse fun x => Event.Started.not_stopAsked
  · rintro ⟨-, never⟩
    obtain ⟨x, mem, found⟩ := served.found
    refine never x ?_ found
    rw [since_trans served.grows h.grows]
    exact List.mem_append_right _ mem

end Transcript

open Transcript (Spared Unserved Attends Halts Serves)

/-! ### Programs that halt, and programs that attend -/

namespace Program

variable {σ α β : Type} {env : Environment} {view : σ → Transcript} {p : ProgramId}

/-- What a program stopped stays so, until it is started again. -/
theorem halts_bind {m : Program σ α} {k : α → Program σ β}
    (hm : Leads (InvImage (Halts p) view) env m)
    (hk : ∀ a, Leads (InvImage (Spared [.start] p) view) env (k a)) :
    Leads (InvImage (Halts p) view) env (m >>= k) := by
  refine Leads.compose ?_ ?_ hm hk
  · exact fun stopped => stopped
  · exact fun stopped after => Halts.of_spared stopped after

/-- What cannot fail may come before a stop. -/
theorem halts_after {m : Program σ α} {k : α → Program σ β}
    (hm : Leads (InvImage (Spared [] p) view) env m)
    (succeeds : ∀ s, ∃ a s', m env s = (.ok a, s'))
    (hk : ∀ a, Leads (InvImage (Halts p) view) env (k a)) :
    Leads (InvImage (Halts p) view) env (m >>= k) := by
  intro s
  obtain ⟨a, s₁, run⟩ := succeeds s
  rw [bind_apply, run]
  exact Halts.of_grows (hm.of_run run).grows (hk a s₁)

theorem attends_bind {m : Program σ α} {k : α → Program σ β}
    (hm : Leads (InvImage (Spared [.start, .available] p) view) env m)
    (hk : ∀ a, Leads (InvImage (Attends p) view) env (k a)) :
    Leads (InvImage (Attends p) view) env (m >>= k) := by
  refine Leads.compose ?_ ?_ hm hk
  · exact fun before => Transcript.attends_of_spared before
  · exact fun before attends => Attends.of_spared before attends

/-- **A program that finds a service available, or fails before that.** -/
def Opens (view : σ → Transcript) (c : RestClient) (p : ProgramId) (env : Environment)
    (m : Program σ α) : Prop :=
  ∀ s, (∃ a s', m env s = (.ok a, s') ∧ c.CanSend ∧ Serves p (view s) (view s')) ∨
    ∃ f s', m env s = (.error f, s') ∧ Unserved p (view s) (view s')

variable {c : RestClient}

theorem Opens.after {m : Program σ α} {k : α → Program σ β}
    (hm : Leads (InvImage (Unserved p) view) env m) (hk : ∀ a, Opens view c p env (k a)) :
    Opens view c p env (m >>= k) := by
  intro s
  rw [bind_apply]
  have before := hm s
  rcases run : m env s with ⟨f | a, s₁⟩ <;> rw [run] at before
  · exact .inr ⟨f, s₁, rfl, before⟩
  · rcases hk a s₁ with ⟨b, s', ended, sends, served⟩ | ⟨f, s', ended, unserved⟩
    · exact .inl ⟨b, s', ended, sends, Unserved.serves before served⟩
    · exact .inr ⟨f, s', ended, trans_of (Unserved p) before unserved⟩

/-- **Where a service was found available, all that follows is to stop it.** -/
theorem Opens.attends {m : Program σ α} {k : α → Program σ β} (hm : Opens view c p env m)
    (hk : c.CanSend → ∀ a, Leads (InvImage (Halts p) view) env (k a)) :
    Leads (InvImage (Attends p) view) env (m >>= k) := by
  intro s
  rw [bind_apply]
  rcases hm s with ⟨a, s₁, run, sends, served⟩ | ⟨f, s₁, run, unserved⟩
  · rw [run]
    exact served.attends (hk sends a s₁)
  · rw [run]
    exact unserved.attends

end Program

variable {env : Environment} {ds : List Demand} {p : ProgramId}

/-- A wait for a service is such a program. -/
theorem RestClient.opens_serviceUrl {c : RestClient}
    (named : ∀ d : Demand, ∀ s ∈ d.route p, Route.IsName s) (w : WaitSpec) :
    Program.Opens id c p env (c.serviceUrl p w) := by
  intro t
  rcases serviceUrl_cases named w env t with
    ⟨url, t', run, sends, grows, found⟩ | ⟨f, t', run, quiet⟩
  · exact .inl ⟨url, t', run, sends, grows, found⟩
  · exact .inr ⟨f, t', run, quiet⟩

theorem ContextAct.opens_liftM {α : Type} {c : RestClient} {m : Session α}
    (h : Program.Opens id c p env m) :
    Program.Opens ContextState.transcript c p env (liftM m : ContextAct α) := by
  intro s
  rw [liftM_session_apply]
  rcases h s.transcript with ⟨a, t, run, sends, served⟩ | ⟨f, t, run, unserved⟩
  · rw [run]
    exact .inl ⟨a, _, rfl, sends, served⟩
  · rw [run]
    exact .inr ⟨f, _, rfl, unserved⟩

theorem ContextAct.follows_weaken {α : Type} {kind kind' : Request → Prop}
    (sub : ∀ r, kind r → kind' r) {m : ContextAct α}
    (h : Follows (ExtendsWithin (Event.Asks kind)) env m) :
    Follows (ExtendsWithin (Event.Asks kind')) env m :=
  Leads.mono (fun within => within.mono fun _ asks => asks.mono sub) h

/-- **What the access model asks for concerns no program**, but for the invalidation of caches. -/
theorem AccessModel.advances_of_invalidate {m : AccessModel} {kind : Request → Prop}
    (elsewhere : ∀ r : Request, r.IsElsewhere → kind r)
    (invalidated : Session.Sends kind env m.invalidate) :
    m.Advances (ExtendsWithin (Event.Asks kind)) env where
  granted request := Session.Sends.weaken elsewhere (m.admin.sends_grantPrivileges request)
  revoked request := Session.Sends.weaken elsewhere (m.admin.sends_revokePrivileges request)
  listed principal := Session.Sends.weaken elsewhere (m.admin.sends_listPrivileges principal)
  refreshed := by
    unfold refresh
    cases m.policy with
    | invalidateOnMutation => exact invalidated
    | stalenessWindow window => exact Session.sends_sleep env window
    | manual => exact .pure ()

namespace Scenario

open ContextAct

/-! ### What is sent while a service runs -/

/-- **A request that befits a service**: it has the service run, or concerns no program, or has the
caches invalidated. -/
def Befits (c : Context) (p : ProgramId) (r : Request) : Prop :=
  r.Launches p ∨ r.IsElsewhere ∨
    c.access.admin.request "POST" c.access.invalidatePath .empty = .ok r

/-- A stretch with no requests but such. -/
abbrev Calm (c : Context) (p : ProgramId) : Transcript → Transcript → Prop :=
  ExtendsWithin (Event.Asks (Befits c p))

section

variable {c : Context} {α : Type}

theorem befits_of_isElsewhere (r : Request) (h : r.IsElsewhere) : Befits c p r := .inr (.inl h)

theorem befits_of_launches (r : Request) (h : r.Launches p) : Befits c p r := .inl h

theorem sends_befitting {m : Session α} (h : Session.Sends Request.IsElsewhere env m) :
    Session.Sends (Befits c p) env m := .weaken befits_of_isElsewhere h

theorem sends_invalidate_befitting (c : Context) (p : ProgramId) :
    Session.Sends (Befits c p) env c.access.invalidate :=
  RestClient.sends_post fun _ sent => .inr (.inr sent)

theorem advances_calm (env : Environment) (c : Context) (p : ProgramId) :
    c.access.Advances (Calm c p) env :=
  AccessModel.advances_of_invalidate befits_of_isElsewhere (sends_invalidate_befitting c p)

end

namespace TableApp

/-- The table service in a namespace. -/
def serviceIn (ns : NamespaceId) : ProgramId := (ns.app app).service service

section

variable {ns : NamespaceId} (name : Route.IsName ns.name)

include name

theorem isName_of_mem_route (d : Demand) : ∀ s ∈ d.route (serviceIn ns), Route.IsName s :=
  Demand.isName_of_mem_route name (by decide) (by decide) d

theorem isName_of_mem_runsRoute : ∀ s ∈ Request.runsRoute (serviceIn ns), Route.IsName s :=
  Request.isName_of_mem_runsRoute name (by decide) (by decide)

/-- **To stop a service** sends nothing but what has it end. -/
theorem sends_stop (client : RestClient) (runs : Nat) :
    Session.Sends (Request.Quells (serviceIn ns)) env (stop client (serviceIn ns) runs) :=
  .bind (Session.Sends.weaken (fun _ => .inl)
    (RestClient.sends_stopProgram (isName_of_mem_route name))) fun _ =>
      .bind (Session.Sends.weaken (fun _ => .inr)
        (client.sends_waitForRuns_lists (isName_of_mem_runsRoute name) .killed runs _))
        fun _ => .pure _

/-- **To restart a service** is to stop it, and what follows has it run. -/
theorem leads_restart_of_stop {R : Transcript → Transcript → Prop}
    (onward : ∀ t t₁ t', R t t₁ →
      ExtendsWithin (Event.Asks (Request.Launches (serviceIn ns))) t₁ t' → R t t')
    {client : RestClient} {killed : Nat}
    (stopped : Leads R env (stop client (serviceIn ns) killed)) :
    Leads R env (restart client (serviceIn ns) killed) := by
  have routes := isName_of_mem_route name
  refine Leads.compose (T := R) (fun failed => failed) (onward _ _ _) stopped fun _ => ?_
  refine .bind (Session.Sends.weaken (fun _ => .inl)
    (RestClient.sends_startProgram routes _)) fun _ => ?_
  refine .bind (Session.Sends.weaken (fun _ listed => .inr (.inr listed))
    (client.sends_waitForRun_lists (isName_of_mem_runsRoute name) .running _)) fun _ => ?_
  exact Session.Sends.weaken (fun _ made => .inr (.inl made))
    (RestClient.sends_serviceUrl routes _)

end

theorem follows_deployTestApp (c : Context) (client : RestClient) (ns : NamespaceId)
    (config : Option Json) (owner : Option String) :
    Follows (ExtendsWithin (Event.Asks Request.IsElsewhere)) env
      (c.deployTestApp client (ns.app app) app config owner) := by
  have other : app ∉ "runs" :: Demand.words := by
    decide
  exact Context.follows_deployTestApp (fun path => Session.sends_fileContent path)
    (fun _ content => client.sends_addArtifact other [] content)
    (fun request => client.sends_deployApp _ id request) config owner

theorem calm_start {ns : NamespaceId} (name : Route.IsName ns.name) (c : Context)
    (dataset owner : String) :
    Follows (Calm c (serviceIn ns)) env (start c (ns.app app) dataset owner) := by
  have routes := isName_of_mem_route name
  have launched {α : Type} {m : Session α}
      (h : Session.Sends (Request.Launches (serviceIn ns)) env m) :
      Follows (Calm c (serviceIn ns)) env (liftM m : ContextAct α) :=
    follows_session (Session.Sends.weaken befits_of_launches h)
  refine .bind (follows_weaken befits_of_isElsewhere (follows_deployTestApp c c.admin ns _ _))
    fun _ => ?_
  refine .bind (launched (Session.Sends.weaken (fun _ => .inl)
    (RestClient.sends_startProgram routes _))) fun _ => ?_
  refine .bind (launched (Session.Sends.weaken (fun _ listed => .inr (.inr listed))
    (c.admin.sends_waitForRun_lists (isName_of_mem_runsRoute name) .running _))) fun _ => ?_
  refine .bind (follows_ofOutcome _) fun w => ?_
  exact launched (Session.Sends.weaken (fun _ made => .inr (.inl made))
    (RestClient.sends_serviceUrl routes w))

/-- **To start a service** finds it available, or fails before that and does not stop it. -/
theorem opens_start {ns : NamespaceId} (name : Route.IsName ns.name) (c : Context)
    (dataset owner : String) :
    Program.Opens ContextState.transcript c.admin (serviceIn ns) env
      (start c (ns.app app) dataset owner) := by
  have routes := isName_of_mem_route name
  have unserved {α : Type} {m : ContextAct α}
      (h : Follows (Spared [.stop, .available] (serviceIn ns)) env m) :
      Follows (Unserved (serviceIn ns)) env m :=
    Leads.mono (fun spared => Transcript.Spared.unserved spared (by decide) (by decide)) h
  have started (r : Request) (made : r.Makes .start (serviceIn ns)) :
      r.Spares [.stop, .available] (serviceIn ns) :=
    made.spares (.inr (by decide))
  refine .after (unserved (follows_weaken (fun _ => Request.IsElsewhere.spares)
    (follows_deployTestApp c c.admin ns _ _))) fun _ => ?_
  refine .after (unserved (follows_session (Session.Sends.weaken started
    (RestClient.sends_startProgram routes _)))) fun _ => ?_
  refine .after (unserved (follows_session (c.admin.sends_waitForRun _ .running _))) fun _ => ?_
  refine .after (unserved (follows_ofOutcome _)) fun w => ?_
  exact ContextAct.opens_liftM (RestClient.opens_serviceUrl routes w)

/-- **To stop a service** is to ask it to, whatever comes of that and of the wait after it. -/
theorem halts_stop {ns : NamespaceId} (name : Route.IsName ns.name) {client : RestClient}
    (sends : client.CanSend) (runs : Nat) :
    Leads (Halts (serviceIn ns)) env (stop client (serviceIn ns) runs) := by
  have asked : Leads (Halts (serviceIn ns)) env (client.stopProgram (serviceIn ns)) := by
    intro t
    obtain ⟨r, sent⟩ :=
      (client.request_route_iff "POST" (Demand.stop.route (serviceIn ns)) .empty).2 sends
    have made : r.Makes .stop (serviceIn ns) :=
      RestClient.makes_of_request (isName_of_mem_route name) (d := .stop) sent
    have after : (client.stopProgram (serviceIn ns) env t).2 = env.after t r := by
      show (client.post (Route.path (Demand.stop.route (serviceIn ns))) .empty env t).2 = _
      rw [RestClient.post_apply, sent]
    rw [after]
    refine ⟨List.suffix_cons _ t, ?_⟩
    rw [Environment.since_after, Transcript.outstanding_singleton]
    exact ⟨r, _, rfl, made⟩
  have whole : Leads (InvImage (Halts (serviceIn ns)) id) env (stop client (serviceIn ns) runs) :=
    Program.halts_bind asked fun _ =>
      .bind (client.sends_waitForRuns _ .killed runs _) fun _ => .pure _
  exact whole

end TableApp

/-! ### Stages -/

/-- **Stages that lead where their numbers say**, each from the number before it to its own. -/
def Climbs (R : Nat → Nat → ContextState → ContextState → Prop) (env : Environment) :
    Nat → List (Nat × ContextAct Unit) → Prop
  | _, [] => True
  | reached, (n, body) :: rest => Leads (R reached n) env body ∧ Climbs R env n rest

/-- **Stages do not fail themselves**, and lead from the first number to the one handed on. -/
theorem Climbs.run {R : Nat → Nat → ContextState → ContextState → Prop}
    {stages : List (Nat × ContextAct Unit)} {reached : Nat} (h : Climbs R env reached stages)
    (same : ∀ n s, R n n s s) (trans : ∀ k n m s s₁ s', R k n s s₁ → R n m s₁ s' → R k m s s')
    (s : ContextState) :
    ∃ o n s', inStages stages reached env s = (.ok (o, n), s') ∧ R reached n s s' := by
  induction stages generalizing reached s with
  | nil => exact ⟨_, _, s, rfl, same reached s⟩
  | cons stage rest ih =>
    obtain ⟨n, body⟩ := stage
    obtain ⟨first, others⟩ := h
    have begun : R reached n s (body env s).2 := first s
    unfold inStages
    rw [Program.bind_apply, attempt_apply]
    rcases ran : body env s with ⟨f | u, s₁⟩ <;> rw [ran] at begun
    · exact ⟨_, n, s₁, rfl, begun⟩
    · obtain ⟨o, m, s', ended, later⟩ := ih others s₁
      exact ⟨o, m, s', ended, trans _ _ _ _ _ _ begun later⟩

theorem Climbs.leads {Q : ContextState → ContextState → Prop} [IsPreorder ContextState Q]
    {stages : List (Nat × ContextAct Unit)} {reached : Nat}
    (h : Climbs (fun _ _ => Q) env reached stages) : Leads Q env (inStages stages reached) := by
  intro s
  obtain ⟨o, n, s', ended, led⟩ := h.run (fun _ => refl_of Q)
    (fun _ _ _ _ _ _ => trans_of Q) s
  rw [ended]
  exact led

/-- Stages are counted, and their failure is handed on. -/
theorem exists_inStages (stages : List (Nat × ContextAct Unit)) (reached : Nat)
    (s : ContextState) : ∃ o s', inStages stages reached env s = (.ok o, s') := by
  have anywhere (k : Nat) (stages : List (Nat × ContextAct Unit)) :
      Climbs (fun _ _ _ _ => True) env k stages := by
    induction stages generalizing k with
    | nil => exact trivial
    | cons stage rest ih => exact ⟨fun _ => trivial, ih stage.1⟩
  obtain ⟨o, n, s', ended, -⟩ :=
    (anywhere reached stages).run (fun _ _ => trivial) (fun _ _ _ _ _ _ _ _ => trivial) s
  exact ⟨_, s', ended⟩

/-- **Bob's stages**: each but the first begins with one more stop, and all else that is sent befits
his service. -/
theorem climbs_bobStages {c : Context} {ns : NamespaceId} (name : Route.IsName ns.name)
    {R : Nat → Nat → Transcript → Transcript → Prop}
    (calm : ∀ n t t', Calm c (TableApp.serviceIn ns) t t' → R n n t t')
    (trans : ∀ k n m t t₁ t', R k n t t₁ → R n m t₁ t' → R k m t t')
    (stopped : ∀ k, Leads (R k (k + 1)) env
      (TableApp.stop c.admin (TableApp.serviceIn ns) (k + 1)))
    (client : RestClient) (d : DatasetId) (url : Url) :
    Climbs (fun k n => InvImage (R k n) ContextState.transcript) env 0
      (bobStages c client (TableApp.serviceIn ns) d url) := by
  have advances := advances_calm env c (TableApp.serviceIn ns)
  have granted : Follows (Calm c (TableApp.serviceIn ns)) env
      (liftM (c.access.grant (.user bob) d.toEntity [.write]) : ContextAct Unit) :=
    follows_access (advances.grant _ _ _)
  have invalidated : Follows (Calm c (TableApp.serviceIn ns)) env
      (liftM c.access.invalidate : ContextAct Unit) :=
    follows_session (sends_invalidate_befitting c _)
  have restarted (k : Nat) : Follows (R k (k + 1)) env
      (liftM (TableApp.restart c.admin (TableApp.serviceIn ns) (k + 1)) : ContextAct Url) := by
    refine follows_session (TableApp.leads_restart_of_stop name ?_ (stopped k))
    intro t t₁ t' before launched
    refine trans _ _ _ _ _ _ before (calm _ _ _ (launched.mono fun _ asks => ?_))
    exact asks.mono befits_of_launches
  have onward {α β : Type} {k n : Nat} {m : ContextAct α} {l : α → ContextAct β}
      (hm : Follows (R k n) env m)
      (hl : ∀ a, Follows (Calm c (TableApp.serviceIn ns)) env (l a)) :
      Follows (R k n) env (m >>= l) :=
    Leads.compose (T := InvImage (R k n) ContextState.transcript) (fun failed => failed)
      (fun before after => trans _ _ _ _ _ _ before (calm _ _ _ after)) hm hl
  refine ⟨Leads.mono (calm _ _ _) ?_, ?_, ?_, trivial⟩
  · refine .bind (follows_assertAllowed _ _ _ (sends_befitting (client.sends_tableGet _ _ _)))
      fun row => ?_
    refine .bind (follows_ofOutcome _) fun _ => ?_
    refine .bind (follows_assertDenied _ _ _ (sends_befitting (client.sends_tablePut _ _ _)))
      fun _ => ?_
    refine .bind (follows_assertDenied _ _ _
      (sends_befitting (client.sends_tableIncrement _ _ _))) fun _ => ?_
    exact .bind granted fun _ => invalidated
  · refine onward (restarted 0) fun url => ?_
    refine .bind (follows_assertAllowed _ _ _ (sends_befitting (client.sends_tablePut _ _ _)))
      fun _ => ?_
    refine .bind (follows_assertAllowed _ _ _
      (sends_befitting (client.sends_tableIncrement _ _ _))) fun row => ?_
    refine .bind (follows_ofOutcome _) fun _ => ?_
    refine .bind (follows_access (advances.revoke _ _ _)) fun _ => ?_
    exact .bind granted fun _ => invalidated
  · refine onward (restarted 1) fun url => ?_
    refine .bind (follows_assertDenied _ _ _ (sends_befitting (client.sends_tableGet _ _ _)))
      fun _ => ?_
    exact follows_assertDenied _ _ _ (sends_befitting (client.sends_tableIncrement _ _ _))

/-! ### Both services -/

section

variable (c : Context)

/-- Whether there is an outcome of a kind can be decided. -/
def decidableOk {α : Type} (o : Outcome α) (kind : α → Prop) [DecidablePred kind] :
    Decidable (∃ a, o = .ok a ∧ kind a) :=
  match o with
  | .ok a => decidable_of_iff (kind a)
      ⟨fun holds => ⟨a, rfl, holds⟩, fun ⟨_, same, holds⟩ => Except.ok.inj same ▸ holds⟩
  | .error _ => isFalse fun ⟨_, same, _⟩ => by cases same

/-- **The two services that the scenario starts.** -/
def tableServices : List ProgramId :=
  [TableApp.serviceIn ⟨c.uniqueName "authorization11"⟩,
    TableApp.serviceIn ⟨c.uniqueName "authorization22"⟩]

/-- The invalidation of caches starts a program: that is where the settings say it is to go. -/
def InvalidationStarts (p : ProgramId) : Prop :=
  ∃ r, c.access.admin.request "POST" c.access.invalidatePath .empty = .ok r ∧
    r.LeadsTo (Demand.start.route p)

instance : Decidable (InvalidationStarts c p) :=
  decidableOk (c.access.admin.request "POST" c.access.invalidatePath .empty) fun r =>
    r.LeadsTo (Demand.start.route p)

variable {c}

theorem isName_uniqueName_of_mem (c : Context) {start : String} {ch : Char}
    (mem : ch ∈ start.toList) (other : ch ≠ '.') : Route.IsName (c.uniqueName start) := by
  refine Route.isName_of_mem ?_ other
  unfold Context.uniqueName
  rw [String.toList_append]
  exact List.mem_append_left _ mem

theorem isName_uniqueName_authorization (c : Context) {start : String}
    (mem : start ∈ ["authorization11", "authorization22"]) :
    Route.IsName (c.uniqueName start) := by
  have letter : 'a' ∈ start.toList := by
    simp only [List.mem_cons, List.not_mem_nil, or_false] at mem
    rcases mem with rfl | rfl <;> decide
  exact isName_uniqueName_of_mem c letter (by decide)

theorem uniqueName_ne : c.uniqueName "authorization11" ≠ c.uniqueName "authorization22" := by
  unfold Context.uniqueName
  intro same
  rw [← String.toList_inj, String.toList_append, String.toList_append,
    List.append_cancel_right_eq] at same
  exact absurd same (by decide)

/-- The part of the scenario in which services run, with the clients of alice and bob. -/
def runTables (c : Context) (client1 client2 : RestClient) : ContextAct Unit := do
  let ns1 : NamespaceId := ⟨c.uniqueName "authorization11"⟩
  let ns2 : NamespaceId := ⟨c.uniqueName "authorization22"⟩
  let name := "testReadDataset"
  let url1 ← TableApp.start c (ns1.app TableApp.app) name alice
  let written ← Session.attempt
    (client1.tablePut url1 (ns1.dataset name) (TableApp.put "col" "100"))
  TableApp.stop c.admin (TableApp.serviceIn ns1) 1
  ofOutcome written
  let url2 ← TableApp.start c (ns2.app TableApp.app) name bob
  let (outcome, restarts) ← inStages
    (bobStages c client2 (TableApp.serviceIn ns2) (ns1.dataset name) url2) 0
  let stopped ← Session.attempt (TableApp.stop c.admin (TableApp.serviceIn ns2) (restarts + 1))
  ofOutcome outcome
  ofOutcome stopped

/-- **Before the services run** nothing is sent for either of them, but what has the caches
invalidated. -/
theorem follows_datasetInProgram {kind : Request → Prop} {R : Transcript → Transcript → Prop}
    (elsewhere : ∀ r : Request, r.IsElsewhere → kind r)
    (invalidated : Session.Sends kind env c.access.invalidate)
    (alone : ∀ t t', ExtendsWithin (Event.Asks kind) t t' → R t t')
    (before : ∀ t t₁ t', ExtendsWithin (Event.Asks kind) t t₁ → R t₁ t' → R t t')
    (rest : ∀ client1 client2, Follows R env (runTables c client1 client2)) :
    Follows R env (datasetInProgram c) := by
  have advances := AccessModel.advances_of_invalidate elsewhere invalidated
  have onward {α β : Type} {m : ContextAct α} {k : α → ContextAct β}
      (hm : Follows (ExtendsWithin (Event.Asks kind)) env m)
      (hk : ∀ a, Follows R env (k a)) : Follows R env (m >>= k) :=
    Leads.compose (T := InvImage R ContextState.transcript) (alone _ _) (before _ _ _) hm hk
  have created (ns : TestNamespace) :
      Follows (ExtendsWithin (Event.Asks kind)) env (Context.createNamespace c.admin ns) :=
    Context.follows_createNamespace
      (Session.Sends.weaken elsewhere (c.admin.sends_createNamespace _))
  have loggedIn (user : String) :
      Follows (ExtendsWithin (Event.Asks kind)) env (c.clientFor user) :=
    Context.follows_clientFor (Session.Sends.weaken elsewhere (RestClient.sends_login _ _))
  unfold datasetInProgram
  refine onward (Context.follows_grantAll advances _ _) fun _ => ?_
  refine onward (follows_access (advances.grant _ _ _)) fun _ => ?_
  refine onward (follows_access (advances.grant _ _ _)) fun _ => ?_
  refine onward (follows_access (advances.grant _ _ _)) fun _ => ?_
  refine onward (Context.follows_registerEntity _) fun _ => ?_
  refine onward (Context.follows_registerEntity _) fun _ => ?_
  refine onward (created _) fun _ => ?_
  refine onward (created _) fun _ => ?_
  refine onward (loggedIn _) fun client1 => ?_
  exact onward (loggedIn _) fun client2 => rest client1 client2

/-- The invalidation of caches makes no demand, but of what the settings name. -/
theorem spares_of_invalidation (unrelated : ¬ InvalidationStarts c p) (other : .stop ∉ ds)
    {r : Request} (sent : c.access.admin.request "POST" c.access.invalidatePath .empty = .ok r) :
    r.Spares ds p := by
  rintro d mem ⟨method, leads⟩
  cases d with
  | start => exact unrelated ⟨r, sent, leads⟩
  | stop => exact other mem
  | available =>
    rw [(RestClient.request_eq_ok sent).1] at method
    exact absurd method (by decide)

/-- What befits one service is not demanded of another. -/
theorem Befits.spares {p' : ProgramId} {r : Request} (h : Befits c p' r)
    (apart : p'.ns.name ≠ p.ns.name) (unrelated : ¬ InvalidationStarts c p) (other : .stop ∉ ds) :
    r.Spares ds p := by
  rcases h with launches | elsewhere | sent
  · exact launches.spares apart
  · exact elsewhere.spares
  · exact spares_of_invalidation unrelated other sent

/-- **The scenario attends to both of its services**, whatever the platform answers and wherever it
stops. -/
theorem attends_datasetInProgram (unrelated : ¬ InvalidationStarts c p)
    (mem : p ∈ tableServices c) : Follows (Attends p) env (datasetInProgram c) := by
  have name1 := isName_uniqueName_authorization c (.head _)
  have name2 := isName_uniqueName_authorization c (.tail _ (.head _))
  have elsewhere (r : Request) (h : r.IsElsewhere) : r.Spares [.start, .available] p := h.spares
  have calm {p' : ProgramId} (apart : p'.ns.name ≠ p.ns.name) (ds : List Demand)
      (other : .stop ∉ ds) (t t' : Transcript) (h : Calm c p' t t') : Spared ds p t t' :=
    h.mono fun _ asks => asks.mono fun _ befits => befits.spares apart unrelated other
  refine follows_datasetInProgram elsewhere (RestClient.sends_post fun _ sent =>
    spares_of_invalidation unrelated (by decide) sent)
    (fun _ _ => Transcript.attends_of_spared) (fun _ _ _ => Attends.of_spared)
    fun client1 client2 => ?_
  unfold runTables
  simp only [tableServices, List.mem_cons, List.not_mem_nil, or_false] at mem
  rcases mem with rfl | rfl
  · have apart : (TableApp.serviceIn ⟨c.uniqueName "authorization22"⟩).ns.name ≠
        (TableApp.serviceIn ⟨c.uniqueName "authorization11"⟩).ns.name := uniqueName_ne.symm
    have befitting := calm apart [.start] (by decide)
    have stopped (runs : Nat) : Session.Sends (Request.Spares [.start]
        (TableApp.serviceIn ⟨c.uniqueName "authorization11"⟩)) env
        (TableApp.stop c.admin (TableApp.serviceIn ⟨c.uniqueName "authorization22"⟩) runs) :=
      Session.Sends.weaken (fun _ quells => quells.spares apart)
        (TableApp.sends_stop name2 c.admin runs)
    -- alice's: stopped as soon as she has written, and never started again
    refine (TableApp.opens_start name1 c _ _).attends fun sends url1 => ?_
    refine Program.halts_after (follows_session (Session.leads_attempt
      (client1.sends_tablePut _ _ _).sparing)) (fun s => ⟨_, _, rfl⟩) fun written => ?_
    refine Program.halts_bind (follows_session (TableApp.halts_stop name1 sends 1)) fun _ => ?_
    refine .bind (follows_ofOutcome _) fun _ => ?_
    refine .bind (Leads.mono (befitting _ _) (TableApp.calm_start name2 c _ _)) fun url2 => ?_
    refine .bind (climbs_bobStages name2 (fun _ => befitting) (fun _ _ _ _ _ _ => trans_of _)
      (fun k => stopped (k + 1)) client2 _ url2).leads fun staged => ?_
    obtain ⟨outcome, restarts⟩ := staged
    refine .bind (follows_session (Session.leads_attempt (stopped (restarts + 1))))
      fun stopped => ?_
    exact .bind (follows_ofOutcome _) fun _ => follows_ofOutcome _
  · have apart : (TableApp.serviceIn ⟨c.uniqueName "authorization11"⟩).ns.name ≠
        (TableApp.serviceIn ⟨c.uniqueName "authorization22"⟩).ns.name := uniqueName_ne
    have anything (r : Request) :
        r.Spares [] (TableApp.serviceIn ⟨c.uniqueName "authorization22"⟩) :=
      fun d mem => absurd mem List.not_mem_nil
    -- bob's: stopped in the end, however many stages there were
    refine Program.attends_bind (Leads.mono (calm apart _ (by decide) _ _)
      (TableApp.calm_start name1 c _ _)) fun url1 => ?_
    refine Program.attends_bind (follows_session (Session.leads_attempt
      (client1.sends_tablePut _ _ _).sparing)) fun written => ?_
    refine Program.attends_bind (follows_session (Session.Sends.weaken
      (fun _ quells => quells.spares apart) (TableApp.sends_stop name1 c.admin 1))) fun _ => ?_
    refine Program.attends_bind (follows_ofOutcome _) fun _ => ?_
    refine (TableApp.opens_start name2 c _ _).attends fun sends url2 => ?_
    refine Program.halts_after (climbs_bobStages name2 (fun _ _ _ calm => calm.mono fun _ asks =>
        asks.mono fun r _ => anything r) (fun _ _ _ _ _ _ => trans_of _)
      (fun k => Session.Sends.weaken (fun r _ => anything r)
        (TableApp.sends_stop name2 c.admin (k + 1))) client2 _ url2).leads
      (exists_inStages _ 0) fun staged => ?_
    obtain ⟨outcome, restarts⟩ := staged
    refine Program.halts_bind (follows_session ?_) fun stopped =>
      .bind (follows_ofOutcome _) fun _ => follows_ofOutcome _
    exact Session.leads_attempt (TableApp.halts_stop name2 sends (restarts + 1))

/-- What that comes to for one run. -/
theorem leavesRunning_of_attends {α : Type} {m : ContextAct α} (h : Follows (Attends p) env m)
    (s : ContextState) :
    let ran := m env s
    let during := ran.2.transcript.since s.transcript
    ran.2.transcript = during ++ s.transcript ∧
      (during.LeavesRunning p ↔
        (∃ x ∈ during, x.Started p) ∧ ∀ x ∈ during, ¬ x.FoundAvailable p) := by
  obtain ⟨grows, running⟩ := h s
  exact ⟨Transcript.eq_since_append grows, running⟩

/-- **When the scenario leaves a service running.**  Exactly when it started it and never found it
available. -/
theorem leavesRunning_iff (c : Context) (env : Environment) (s : ContextState)
    (mem : p ∈ tableServices c) (unrelated : ¬ InvalidationStarts c p) :
    let ran := datasetInProgram c env s
    let during := ran.2.transcript.since s.transcript
    ran.2.transcript = during ++ s.transcript ∧
      (during.LeavesRunning p ↔
        (∃ x ∈ during, x.Started p) ∧ ∀ x ∈ during, ¬ x.FoundAvailable p) :=
  leavesRunning_of_attends (attends_datasetInProgram unrelated mem) s

end

/-- A platform that accepts everything but some requests.  Only runs are asked for with a query. -/
def TableApp.platform (refused : Request → Bool) : Environment :=
  .replying fun _ r => .answered (
    if refused r then ⟨500, "out of memory"⟩
    else if r.url.query.isSome then ⟨200, "[\x7b\"runid\":\"r\",\"status\":\"RUNNING\"\x7d]"⟩
    else ⟨200, "\x7b\"access_token\":\"b\"\x7d"⟩)

/-- What happens in a run of the scenario by itself. -/
def TableApp.history (env : Environment) : Transcript :=
  (datasetInProgram .localRun env (.start [])).2.transcript.since (ContextState.start []).transcript

/-- Alice's service does not stop when it is asked to, and is not left running: it was asked. -/
theorem leavesRunning_iff_asked :
    let p := TableApp.serviceIn ⟨"authorization111"⟩
    let env := TableApp.platform fun r => r.Makes .stop p
    (p ∈ tableServices .localRun ∧ ¬ InvalidationStarts .localRun p) ∧
      (∃ x ∈ TableApp.history env, x.Started p) ∧ ¬ (TableApp.history env).LeavesRunning p := by
  intro p env
  have mem : p ∈ tableServices .localRun := by
    decide
  have unrelated : ¬ InvalidationStarts .localRun p := by
    decide +kernel
  have account : (TableApp.history env).LeavesRunning p ↔
      (∃ x ∈ TableApp.history env, x.Started p) ∧
        ∀ x ∈ TableApp.history env, ¬ x.FoundAvailable p :=
    (leavesRunning_iff .localRun env (.start []) mem unrelated).2
  have happened : (∃ x ∈ TableApp.history env, x.Started p) ∧
      ∃ x ∈ TableApp.history env, x.FoundAvailable p := by
    decide +kernel
  refine ⟨⟨mem, unrelated⟩, happened.1, ?_⟩
  intro running
  obtain ⟨-, never⟩ := account.1 running
  obtain ⟨x, mem', found⟩ := happened.2
  exact never x mem' found

/-- **A service that was started is left running** if the wait for its run fails. -/
theorem datasetInProgram_leaves_running :
    let env := TableApp.platform fun r => r.url.query.isSome
    ∃ p ∈ tableServices .localRun, (TableApp.history env).LeavesRunning p := by
  intro env
  have mem : TableApp.serviceIn ⟨"authorization111"⟩ ∈ tableServices .localRun := by
    decide
  refine ⟨_, mem, ?_⟩
  decide +kernel

end Scenario

end AccessHarness
