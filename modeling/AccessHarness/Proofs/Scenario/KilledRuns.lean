import AccessHarness.Proofs.Scenario.Services

/-!
# How many killed runs are waited for

Whoever stops a table service waits until a number of its runs were killed.  The wait is for an
exact number, so it matters which.

* `Transcript.KillWaits` — every stop is followed by a wait for some count of what happened, and
  killed runs are asked for in no other place.
* `Transcript.Tally` — such a stretch, with the count before it and after it.
* `TableApp.tally_stop`, `Scenario.killWaits_datasetInProgram` — one stop is one more, and so for
  the whole scenario.
* `Scenario.killWaits_asked` — what is counted are the stops that were asked for, so the number is
  that of the stops exactly as long as none was refused.
* `Scenario.datasetInProgram_miscounts` — a stop can be refused, and be counted.

### What is load-bearing

**The number is handed from stage to stage**, so it is counted from stretch to stretch: a stretch
takes the count before it to the count after it (`Tally.trans`), however the stretch ends.  A stage
that fails halfway has counted its stop already; that is where the number comes apart from that of
the stops.

**Only a client that can send is counted on.**  A stop that cannot be sent is counted and asked of
nobody.  Bob's service is stopped by the client that found it available, so this does not happen to
it.
-/

namespace AccessHarness

open Program (Leads)
open Transcript (ExtendsWithin)

namespace Transcript

variable {kind : Event → Prop} {p : ProgramId} {t t₁ t' v : Transcript} {x : Event}

/-! ### Where a history reaches -/

/-- **A history that goes on from another to an event of a kind.** -/
def Reaches (kind : Event → Prop) (t v : Transcript) : Prop :=
  ∃ x u, v = x :: u ∧ t <:+ u ∧ kind x

instance [DecidablePred kind] : (t v : Transcript) → Decidable (Reaches kind t v)
  | _, [] => isFalse fun ⟨_, _, split, _⟩ => by cases split
  | t, x :: u => decidable_of_iff (t <:+ u ∧ kind x)
      ⟨fun reached => ⟨x, u, rfl, reached⟩, fun ⟨_, _, split, reached⟩ => by
        cases split
        exact reached⟩

namespace Reaches

theorem grows (h : Reaches kind t v) : t <:+ v := by
  obtain ⟨x, u, rfl, grows, -⟩ := h
  exact grows.trans (List.suffix_cons x u)

theorem of_grows (h : Reaches kind t₁ v) (before : t <:+ t₁) : Reaches kind t v := by
  obtain ⟨x, u, split, grows, holds⟩ := h
  exact ⟨x, u, split, before.trans grows, holds⟩

/-- What a part of a history reaches is an event of the whole. -/
theorem exists_mem (h : Reaches kind t v) (within : v <:+ t') : ∃ x ∈ t'.since t, kind x := by
  obtain ⟨x, u, rfl, grows, holds⟩ := h
  refine ⟨x, ?_, holds⟩
  rw [since_trans (grows.trans (List.suffix_cons x u)) within,
    since_trans grows (List.suffix_cons x u), since_cons]
  exact List.mem_append_right _ (List.mem_append_left _ List.mem_cons_self)

/-- Of two stretches a history reaches into the second, or ends in the first. -/
theorem reaches_or_suffix (h : Reaches kind t v) (within : v <:+ t') (later : t₁ <:+ t') :
    Reaches kind t₁ v ∨ v <:+ t₁ := by
  obtain ⟨x, u, rfl, -, holds⟩ := h
  exact (suffix_or_cons_suffix later within).imp_left fun grows => ⟨x, u, rfl, grows, holds⟩

/-- Within one event there is one place to reach. -/
theorem eq_cons (h : Reaches kind t v) (within : v <:+ x :: t) : v = x :: t := by
  obtain ⟨y, u, rfl, grows, -⟩ := h
  refine within.eq_of_length_le ?_
  exact Nat.succ_le_succ grows.length_le

end Reaches

/-! ### Counts of stops -/

variable (p) in
/-- How often a program was asked to stop. -/
def stopsAsked (t : Transcript) : Nat := t.countP fun x => x.StopAsked p

variable (p) in
/-- How often a program was stopped. -/
def stops (t : Transcript) : Nat := t.countP fun x => x.Stopped p

theorem stopsAsked_since (before : t <:+ t₁) (after : t₁ <:+ v) :
    stopsAsked p (v.since t) = stopsAsked p (v.since t₁) + stopsAsked p (t₁.since t) := by
  unfold stopsAsked
  rw [since_trans before after, List.countP_append]

theorem stopsAsked_eq_zero (never : ∀ x ∈ t, ¬ x.StopAsked p) : stopsAsked p t = 0 :=
  List.countP_eq_zero.2 fun x mem => by simpa using never x mem

theorem stopsAsked_singleton (asked : x.StopAsked p) : stopsAsked p [x] = 1 := by
  simp [stopsAsked, asked]

theorem stops_le_stopsAsked (t : Transcript) : stops p t ≤ stopsAsked p t :=
  List.countP_mono_left fun x _ stopped => by
    simpa using Event.Stopped.stopAsked (of_decide_eq_true stopped)

/-- **All stops that were asked for were made**, if there are as many of the ones as of the
others. -/
theorem stopsAsked_eq_stops_iff {t : Transcript} :
    stopsAsked p t = stops p t ↔ ∀ x ∈ t, x.StopAsked p → x.Stopped p := by
  induction t with
  | nil => exact iff_of_true rfl (List.forall_mem_nil _)
  | cons x t ih =>
    have fewer := stops_le_stopsAsked (p := p) t
    rw [List.forall_mem_cons, ← ih]
    unfold stopsAsked stops at *
    rw [List.countP_cons, List.countP_cons]
    by_cases asked : x.StopAsked p
    · by_cases stopped : x.Stopped p
      · simp [asked, stopped]
      · simp only [asked, stopped, decide_true, decide_false, if_true, Bool.false_eq_true,
          if_false, true_implies, false_and, iff_false]
        omega
    · have unstopped : ¬ x.Stopped p := fun stopped => asked stopped.stopAsked
      simp [asked, unstopped]

/-! ### Stretches in which stops are waited for -/

variable {wait : Nat → Transcript → Transcript} {count : Transcript → Nat} {n m k : Nat}

/-- **Every stop is waited for**: it is followed by a wait for a count of what happened up to it,
and killed runs are asked for in such waits only.  A wait for a number takes the history at which it
begins to the one at which it ends. -/
structure KillWaits (wait : Nat → Transcript → Transcript) (p : ProgramId)
    (count : Transcript → Nat) (t t' : Transcript) : Prop where
  grows : t <:+ t'
  waits : ∀ v : Transcript, v <:+ t' → Reaches (Event.Stopped p) t v →
    wait (count (v.since t)) v <:+ t'
  lists : ∀ v : Transcript, v <:+ t' → Reaches (Event.Listed p) t v →
    ∃ w : Transcript, w <:+ v ∧ Reaches (Event.Stopped p) t w ∧ v <:+ wait (count (w.since t)) w

instance : Decidable (KillWaits wait p count t t') :=
  decidable_of_iff (t <:+ t' ∧
    (∀ v ∈ t'.tails, Reaches (Event.Stopped p) t v → wait (count (since v t)) v <:+ t') ∧
    ∀ v ∈ t'.tails, Reaches (Event.Listed p) t v →
      ∃ w ∈ v.tails, Reaches (Event.Stopped p) t w ∧ v <:+ wait (count (since w t)) w)
    ⟨fun ⟨grows, waits, lists⟩ => ⟨grows, fun v within => waits v ((List.mem_tails _ _).2 within),
      fun v within reached =>
        let ⟨w, mem, found⟩ := lists v ((List.mem_tails _ _).2 within) reached
        ⟨w, (List.mem_tails _ _).1 mem, found⟩⟩,
    fun ⟨grows, waits, lists⟩ => ⟨grows, fun v mem => waits v ((List.mem_tails _ _).1 mem),
      fun v mem reached =>
        let ⟨w, within, found⟩ := lists v ((List.mem_tails _ _).1 mem) reached
        ⟨w, (List.mem_tails _ _).2 within, found⟩⟩⟩

/-- Where nothing is stopped and no runs are asked for there is nothing to wait for. -/
theorem killWaits_of_never (grows : t <:+ t') (unstopped : ∀ x ∈ t'.since t, ¬ x.Stopped p)
    (unlisted : ∀ x ∈ t'.since t, ¬ x.Listed p) : KillWaits wait p count t t' := by
  refine ⟨grows, ?_, ?_⟩
  · intro v within reached
    obtain ⟨x, mem, stopped⟩ := reached.exists_mem within
    exact absurd stopped (unstopped x mem)
  · intro v within reached
    obtain ⟨x, mem, listed⟩ := reached.exists_mem within
    exact absurd listed (unlisted x mem)

/-- **A stretch that takes one count to another**: every stop is waited for with the count before
the stretch and the stops asked for in it. -/
structure Tally (wait : Nat → Transcript → Transcript) (p : ProgramId) (n m : Nat)
    (t t' : Transcript) : Prop where
  waits : KillWaits wait p (fun during => n + stopsAsked p during) t t'
  total : n + stopsAsked p (t'.since t) = m

/-- What the second of two stretches counts goes on from the first. -/
theorem Tally.killWaits (h : Tally wait p n m t t₁)
    (h' : KillWaits wait p (fun during => m + stopsAsked p during) t₁ t') :
    KillWaits wait p (fun during => n + stopsAsked p during) t t' := by
  have before := h.waits.grows
  have counted {v : Transcript} (after : t₁ <:+ v) :
      n + stopsAsked p (v.since t) = m + stopsAsked p (v.since t₁) := by
    have total := h.total
    rw [stopsAsked_since before after]
    omega
  refine ⟨before.trans h'.grows, ?_, ?_⟩
  · intro v within reached
    rcases reached.reaches_or_suffix within h'.grows with second | first
    · rw [counted second.grows]
      exact h'.waits v within second
    · exact (h.waits.waits v first reached).trans h'.grows
  · intro v within reached
    rcases reached.reaches_or_suffix within h'.grows with second | first
    · obtain ⟨w, earlier, stopped, inside⟩ := h'.lists v within second
      refine ⟨w, earlier, stopped.of_grows before, ?_⟩
      rw [counted stopped.grows]
      exact inside
    · exact h.waits.lists v first reached

/-- **Counts go on from stretch to stretch.** -/
theorem Tally.trans (h : Tally wait p n k t t₁) (h' : Tally wait p k m t₁ t') :
    Tally wait p n m t t' := by
  refine ⟨h.killWaits h'.waits, ?_⟩
  have first := h.total
  have second := h'.total
  rw [stopsAsked_since h.waits.grows h'.waits.grows]
  omega

/-- What is aside is not counted. -/
theorem tally_of_aside (h : ExtendsWithin (Event.Asks (Request.Aside p)) t t') (n : Nat) :
    Tally wait p n n t t' := by
  have unasked : ∀ x ∈ t'.since t, ¬ x.StopAsked p := fun x mem =>
    Event.not_stopAsked_of_aside (h.within x mem)
  refine ⟨killWaits_of_never h.grows ?_ ?_, ?_⟩
  · exact fun x mem stopped => unasked x mem stopped.stopAsked
  · exact fun x mem => Event.not_listed_of_aside (h.within x mem)
  · rw [stopsAsked_eq_zero unasked, Nat.add_zero]

theorem KillWaits.of_aside (h : KillWaits wait p (fun during => n + stopsAsked p during) t t₁)
    (after : ExtendsWithin (Event.Asks (Request.Aside p)) t₁ t') :
    KillWaits wait p (fun during => n + stopsAsked p during) t t' :=
  Tally.killWaits ⟨h, rfl⟩ (tally_of_aside after _).waits

/-- **A stop that is refused counts**, and is not waited for. -/
theorem tally_of_refused (asked : x.StopAsked p) (refused : ¬ x.Stopped p) (n : Nat) :
    Tally wait p n (n + 1) t (x :: t) := by
  refine ⟨killWaits_of_never (List.suffix_cons x t) ?_ ?_, ?_⟩
  · rw [since_cons, List.forall_mem_singleton]
    exact refused
  · rw [since_cons, List.forall_mem_singleton]
    exact asked.not_listed
  · rw [since_cons, stopsAsked_singleton asked]

/-- **A stop that is made counts**, and is waited for with itself. -/
theorem tally_of_stopped (stopped : x.Stopped p)
    (waited : ExtendsWithin (fun y => ¬ y.StopAsked p) (x :: t) (wait (n + 1) (x :: t))) :
    Tally wait p n (n + 1) t (wait (n + 1) (x :: t)) := by
  have one : stopsAsked p (since (x :: t) t) = 1 := by
    rw [since_cons, stopsAsked_singleton stopped.stopAsked]
  have begun : Reaches (Event.Stopped p) t (x :: t) := ⟨x, t, rfl, List.suffix_refl t, stopped⟩
  refine ⟨⟨(List.suffix_cons x t).trans waited.grows, ?_, ?_⟩, ?_⟩
  · intro v within reached
    rcases reached.reaches_or_suffix within waited.grows with inside | first
    · obtain ⟨y, mem, again⟩ := inside.exists_mem within
      exact absurd again.stopAsked (waited.within y mem)
    · rw [reached.eq_cons first, one]
  · intro v within reached
    rcases reached.reaches_or_suffix within waited.grows with inside | first
    · refine ⟨x :: t, inside.grows, begun, ?_⟩
      rw [one]
      exact within
    · rw [reached.eq_cons first] at reached
      obtain ⟨y, u, split, -, listed⟩ := reached
      obtain ⟨rfl, rfl⟩ := List.cons.inj split
      exact absurd listed stopped.stopAsked.not_listed
  · rw [stopsAsked_since (List.suffix_cons x t) waited.grows, one, stopsAsked_eq_zero waited.within]

end Transcript

open Transcript (KillWaits Tally stops stopsAsked)
open ContextAct (Follows follows_session follows_ofOutcome)

/-- **Where a service was found available**, what follows may count on the client. -/
theorem Program.Opens.leads {σ α β : Type} {env : Environment} {view : σ → Transcript}
    {c : RestClient} {p : ProgramId} {Q R T : σ → σ → Prop} {m : Program σ α}
    {k : α → Program σ β} (hm : Opens view c p env m) (led : Leads Q env m)
    (failed : ∀ s s', Q s s' → T s s') (whole : ∀ s s₁ s', Q s s₁ → R s₁ s' → T s s')
    (hk : c.CanSend → ∀ a, Leads R env (k a)) : Leads T env (m >>= k) := by
  intro s
  have first := led s
  rw [bind_apply]
  rcases hm s with ⟨a, s₁, run, sends, -⟩ | ⟨f, s₁, run, -⟩ <;> rw [run] at first ⊢
  · exact whole s s₁ _ first (hk sends a s₁)
  · exact failed s s₁ first

namespace Scenario

/-- **What comes after some stages** goes on from the number they hand on. -/
theorem Climbs.leads_bind {α : Type} {env : Environment}
    {R : Nat → Nat → ContextState → ContextState → Prop}
    {T : Nat → ContextState → ContextState → Prop} {stages : List (Nat × ContextAct Unit)}
    {reached : Nat} (h : Climbs R env reached stages) (same : ∀ n s, R n n s s)
    (trans : ∀ k n m s s₁ s', R k n s s₁ → R n m s₁ s' → R k m s s')
    (whole : ∀ k n s s₁ s', R k n s s₁ → T n s₁ s' → T k s s')
    {l : Outcome Unit × Nat → ContextAct α} (hl : ∀ o n, Leads (T n) env (l (o, n))) :
    Leads (T reached) env (inStages stages reached >>= l) := by
  intro s
  obtain ⟨o, n, s₁, staged, climbed⟩ := h.run same trans s
  rw [Program.bind_apply, staged]
  exact whole _ _ _ _ _ climbed (hl o n s₁)

namespace TableApp

/-- The wait for killed runs after a service was stopped. -/
def awaitKilled (client : RestClient) (service : ProgramId) (runs : Nat) :
    Session (List RunRecord) :=
  client.waitForRuns service .killed runs
    (.programFirstProcessed (service.display ++ " killed"))

/-- The history after that wait. -/
def afterKilled (client : RestClient) (env : Environment) (service : ProgramId) (runs : Nat)
    (t : Transcript) : Transcript :=
  (awaitKilled client service runs env t).2

section

variable {env : Environment} {ns : NamespaceId} (name : Route.IsName ns.name)
  (client : RestClient) (n : Nat)

include name

/-- **To stop a service** asks nobody, or is one more stop. -/
theorem tally_stop_cases (t : Transcript) :
    let stopped := (stop client (serviceIn ns) (n + 1) env t).2
    stopped = t ∧ ¬ client.CanSend ∨
      Tally (afterKilled client env (serviceIn ns)) (serviceIn ns) n (n + 1) t stopped := by
  have posted : client.stopProgram (serviceIn ns) env t =
      client.post (Route.path (Demand.stop.route (serviceIn ns))) .empty env t := rfl
  intro stopped
  have ran : stopped = (stop client (serviceIn ns) (n + 1) env t).2 := rfl
  rw [stop, Program.bind_apply, posted] at ran
  rcases client.post_cases (Demand.stop.route (serviceIn ns)) .empty env t with
    ⟨f, run, silent⟩ | ⟨r, sent, ended⟩
  · rw [run] at ran
    exact .inl ⟨ran, silent⟩
  · have made : r.Makes .stop (serviceIn ns) :=
      RestClient.makes_of_request (isName_of_mem_route name) (d := .stop) sent
    rcases ended with ⟨f, run, refused⟩ | ⟨run, accepted⟩
    · rw [run] at ran
      rw [show stopped = env.after t r from ran]
      refine .inr (Transcript.tally_of_refused ⟨r, _, rfl, made⟩ ?_ n)
      rintro ⟨r', reply, other, -, accepted⟩
      cases other
      rw [refused] at accepted
      cases accepted
    · rw [run] at ran
      have waited : stopped =
          afterKilled client env (serviceIn ns) (n + 1) (env.after t r) := by
        rw [ran]
        simp only
        rw [Program.bind_apply]
        unfold afterKilled awaitKilled
        rcases client.waitForRuns (serviceIn ns) .killed (n + 1) _ env (env.after t r) with
          ⟨f | runs, u⟩ <;> rfl
      have listed : Session.Sends (Request.Lists .killed (serviceIn ns)) env
          (awaitKilled client (serviceIn ns) (n + 1)) :=
        client.sends_waitForRuns_lists (isName_of_mem_runsRoute name) .killed (n + 1) _
      rw [waited]
      refine .inr (Transcript.tally_of_stopped ⟨r, _, rfl, made, accepted⟩ ?_)
      exact (listed (env.after t r)).mono fun _ => Event.not_stopAsked_of_lists

/-- **One stop is one more**, for a client that can send. -/
theorem tally_stop (sends : client.CanSend) :
    Leads (Tally (afterKilled client env (serviceIn ns)) (serviceIn ns) n (n + 1)) env
      (stop client (serviceIn ns) (n + 1)) := by
  intro t
  rcases tally_stop_cases name client n t with ⟨-, silent⟩ | counted
  · exact absurd sends silent
  · exact counted

theorem killWaits_stop :
    Leads (KillWaits (afterKilled client env (serviceIn ns)) (serviceIn ns)
      (fun during => n + stopsAsked (serviceIn ns) during)) env
      (stop client (serviceIn ns) (n + 1)) := by
  intro t
  rcases tally_stop_cases name client n t with ⟨same, -⟩ | counted
  · rw [same]
    exact (Transcript.tally_of_aside (refl_of _ t) n).waits
  · exact counted.waits

end

end TableApp

/-! ### The scenario -/

section

variable (c : Context) {env : Environment} {p : ProgramId}

/-- The invalidation of caches stops a program: that is where the settings say it is to go. -/
def InvalidationStops (p : ProgramId) : Prop :=
  ∃ r, c.access.admin.request "POST" c.access.invalidatePath .empty = .ok r ∧
    r.LeadsTo (Demand.stop.route p)

instance : Decidable (InvalidationStops c p) :=
  decidableOk (c.access.admin.request "POST" c.access.invalidatePath .empty) fun r =>
    r.LeadsTo (Demand.stop.route p)

variable {c}

theorem aside_of_invalidation (unrelated : ¬ InvalidationStops c p) {r : Request}
    (sent : c.access.admin.request "POST" c.access.invalidatePath .empty = .ok r) : r.Aside p :=
  Request.aside_of_post (RestClient.request_eq_ok sent).1 fun leads => unrelated ⟨r, sent, leads⟩

/-- What befits a service stops none. -/
theorem Befits.aside {p' : ProgramId} {r : Request} (h : Befits c p' r)
    (unrelated : ¬ InvalidationStops c p) : r.Aside p := by
  rcases h with launches | elsewhere | sent
  · exact launches.aside
  · exact elsewhere.aside
  · exact aside_of_invalidation unrelated sent

/-- **The scenario waits for as many killed runs as it asked for stops**, whatever the platform
answers and wherever it stops. -/
theorem killWaits_datasetInProgram (unrelated : ¬ InvalidationStops c p)
    (mem : p ∈ tableServices c) :
    Follows (KillWaits (TableApp.afterKilled c.admin env p) p
      (fun during => 0 + stopsAsked p during)) env (datasetInProgram c) := by
  have name1 := isName_uniqueName_authorization c (.head _)
  have name2 := isName_uniqueName_authorization c (.tail _ (.head _))
  let Quiet := ExtendsWithin (Event.Asks (Request.Aside p))
  have calm (p' : ProgramId) (t t' : Transcript) (h : Calm c p' t t') : Quiet t t' :=
    h.mono fun _ asks => asks.mono fun _ befits => befits.aside unrelated
  have put (client : RestClient) (url : Url) (d : DatasetId) (request : TablePut) :
      Follows Quiet env (liftM (Session.attempt (client.tablePut url d request)) :
        ContextAct (Outcome Unit)) :=
    follows_session (Session.leads_attempt (Session.Sends.weaken
      (fun _ => Request.IsElsewhere.aside) (client.sends_tablePut url d request)))
  let Counts (n : Nat) : Transcript → Transcript → Prop :=
    KillWaits (TableApp.afterKilled c.admin env p) p (fun during => n + stopsAsked p during)
  have onward {α : Type} {m : ContextAct α} {l : α → ContextAct Unit} (hm : Follows Quiet env m)
      (hl : ∀ a, Follows (Counts 0) env (l a)) : Follows (Counts 0) env (m >>= l) :=
    Leads.compose (T := InvImage (Counts 0) ContextState.transcript)
      (fun quiet => (Transcript.tally_of_aside quiet 0).waits)
      (fun quiet after => (Transcript.tally_of_aside quiet 0).killWaits after) hm hl
  have ending {α : Type} {n : Nat} {m : ContextAct α} {l : α → ContextAct Unit}
      (hm : Follows (Counts n) env m) (hl : ∀ a, Follows Quiet env (l a)) :
      Follows (Counts n) env (m >>= l) :=
    Leads.compose (T := InvImage (Counts n) ContextState.transcript) (fun failed => failed)
      (fun counts quiet => counts.of_aside quiet) hm hl
  refine follows_datasetInProgram (fun _ => Request.IsElsewhere.aside)
    (RestClient.sends_post fun _ => aside_of_invalidation unrelated)
    (fun _ _ quiet => (Transcript.tally_of_aside quiet 0).waits)
    (fun _ _ _ quiet after => (Transcript.tally_of_aside quiet 0).killWaits after)
    fun client1 client2 => ?_
  unfold runTables
  simp only [tableServices, List.mem_cons, List.not_mem_nil, or_false] at mem
  rcases mem with rfl | rfl
  · have apart : (TableApp.serviceIn ⟨c.uniqueName "authorization22"⟩).ns.name ≠
        (TableApp.serviceIn ⟨c.uniqueName "authorization11"⟩).ns.name := uniqueName_ne.symm
    have stopped (runs : Nat) : Leads Quiet env
        (TableApp.stop c.admin (TableApp.serviceIn ⟨c.uniqueName "authorization22"⟩) runs) :=
      Session.Sends.weaken (fun _ quells => quells.aside apart)
        (TableApp.sends_stop name2 c.admin runs)
    -- alice's: stopped once
    refine onward (Leads.mono (calm _ _ _) (TableApp.calm_start name1 c _ _)) fun url1 => ?_
    refine onward (put client1 url1 _ _) fun written => ?_
    refine ending (follows_session (TableApp.killWaits_stop name1 c.admin 0)) fun _ => ?_
    refine .bind (follows_ofOutcome _) fun _ => ?_
    refine .bind (Leads.mono (calm _ _ _) (TableApp.calm_start name2 c _ _)) fun url2 => ?_
    refine .bind (climbs_bobStages name2 (fun _ => calm _) (fun _ _ _ _ _ _ => trans_of _)
      (fun k => stopped (k + 1)) client2 _ url2).leads fun staged => ?_
    obtain ⟨outcome, restarts⟩ := staged
    refine .bind (follows_session (Session.leads_attempt (stopped (restarts + 1)))) fun _ => ?_
    exact .bind (follows_ofOutcome _) fun _ => follows_ofOutcome _
  · have apart : (TableApp.serviceIn ⟨c.uniqueName "authorization11"⟩).ns.name ≠
        (TableApp.serviceIn ⟨c.uniqueName "authorization22"⟩).ns.name := uniqueName_ne
    refine onward (Leads.mono (calm _ _ _) (TableApp.calm_start name1 c _ _)) fun url1 => ?_
    refine onward (put client1 url1 _ _) fun written => ?_
    refine onward (follows_session (Session.Sends.weaken (fun _ quells => quells.aside apart)
      (TableApp.sends_stop name1 c.admin 1))) fun _ => ?_
    refine onward (follows_ofOutcome _) fun _ => ?_
    -- bob's: found available, so that every stop of it is sent
    refine (TableApp.opens_start name2 c _ _).leads
      (Leads.mono (calm _ _ _) (TableApp.calm_start name2 c _ _))
      (fun _ _ quiet => (Transcript.tally_of_aside quiet 0).waits)
      (fun _ _ _ quiet after => (Transcript.tally_of_aside quiet 0).killWaits after)
      fun sends url2 => ?_
    have climbs : Climbs (fun k n => InvImage (Tally (TableApp.afterKilled c.admin env _) _ k n)
        ContextState.transcript) env 0 _ :=
      climbs_bobStages name2 (fun n _ _ befits => Transcript.tally_of_aside (calm _ _ _ befits) n)
        (fun _ _ _ _ _ _ => Tally.trans) (fun k => TableApp.tally_stop name2 c.admin k sends)
        client2 (NamespaceId.dataset ⟨c.uniqueName "authorization11"⟩ "testReadDataset") url2
    refine climbs.leads_bind (T := fun n => InvImage (Counts n) ContextState.transcript)
      (fun n s => Transcript.tally_of_aside (refl_of _ s.transcript) n)
      (fun _ _ _ _ _ _ => Tally.trans) (fun _ _ _ _ _ => Tally.killWaits)
      fun outcome restarts => ?_
    refine ending (follows_session (Session.leads_attempt
      (TableApp.killWaits_stop name2 c.admin restarts))) fun stopped => ?_
    exact .bind (follows_ofOutcome _) fun _ => follows_ofOutcome _

/-- **The number of killed runs that is waited for.**  Every stop of a service is followed by a wait
for as many of its runs as it was asked to stop so far, and its killed runs are asked for in no
other place.  That is the number of the stops so far exactly if none was refused so far. -/
theorem killWaits_asked (c : Context) (env : Environment) (s : ContextState)
    (mem : p ∈ tableServices c) (unrelated : ¬ InvalidationStops c p) :
    let ran := datasetInProgram c env s
    let so (v : Transcript) := v.since s.transcript
    KillWaits (TableApp.afterKilled c.admin env p) p (stopsAsked p) s.transcript ran.2.transcript ∧
      ∀ v, v <:+ ran.2.transcript → Transcript.Reaches (Event.Stopped p) s.transcript v →
        (stopsAsked p (so v) = stops p (so v) ↔
          ∀ x ∈ so v, x.StopAsked p → x.Stopped p) := by
  have fromZero : (fun during => 0 + stopsAsked p during) = stopsAsked p :=
    funext fun during => Nat.zero_add _
  have waited : Follows (KillWaits (TableApp.afterKilled c.admin env p) p (stopsAsked p)) env
      (datasetInProgram c) := by
    rw [← fromZero]
    exact killWaits_datasetInProgram unrelated mem
  exact ⟨waited s, fun v _ _ => Transcript.stopsAsked_eq_stops_iff⟩

end

/-- A platform that refuses the first stop of a service and does not let bob write.  It lists one
run, and fails when it is asked again after a while. -/
def TableApp.stubborn (p : ProgramId) : Environment :=
  { TableApp.platform fun _ => false with
    respond := fun t r => .answered (
      let path := match r.url.path with
        | .rooted l => l.map String.ofList
        | .flat _ => []
      if r.Makes .stop p ∧ stopsAsked p t = 0 then ⟨500, "busy"⟩
      else if r.url.query.isSome then
        match t with
        | .slept _ :: _ => ⟨500, "out of memory"⟩
        | _ => ⟨200, "[\x7b\"runid\":\"r\",\"status\":\"KILLED\"\x7d]"⟩
      else if path.getLast? = some "get" then ⟨200, "\x7b\"col\":\"100\"\x7d"⟩
      else if path.getLast? ∈ [some "put", some "incrementAndGet"] ∧ p.ns.name ∈ path then
        ⟨403, "not authorized"⟩
      else ⟨200, "\x7b\"access_token\":\"b\"\x7d"⟩) }

/-- The stop of bob's service is refused once, and the next wait is for two runs. -/
theorem killWaits_asked_stubborn :
    let p := TableApp.serviceIn ⟨"authorization221"⟩
    let env := TableApp.stubborn p
    let ran := datasetInProgram .localRun env (.start [])
    (p ∈ tableServices .localRun ∧ ¬ InvalidationStops .localRun p) ∧
      KillWaits (TableApp.afterKilled Context.localRun.admin env p) p (stopsAsked p)
        (ContextState.start []).transcript ran.2.transcript := by
  intro p env ran
  have mem : p ∈ tableServices .localRun := by
    decide
  have unrelated : ¬ InvalidationStops .localRun p := by
    decide +kernel
  exact ⟨⟨mem, unrelated⟩, (killWaits_asked .localRun env (.start []) mem unrelated).1⟩

/-- **A stop that was refused is counted**: bob's service is asked to stop twice and stopped once,
and its killed runs are asked for again where one of them was there. -/
theorem datasetInProgram_miscounts :
    let p := TableApp.serviceIn ⟨"authorization221"⟩
    let env := TableApp.stubborn p
    let ran := datasetInProgram .localRun env (.start [])
    p ∈ tableServices .localRun ∧ ¬ InvalidationStops .localRun p ∧
      ¬ KillWaits (TableApp.afterKilled Context.localRun.admin env p) p (stops p)
        (ContextState.start []).transcript ran.2.transcript := by
  decide +kernel

end Scenario

end AccessHarness
