import AccessHarness.Proofs.Rest.Demands

/-!
# Runs that are asked for

Besides the three demands a program is asked for its runs in one state.  With these requests all
that is sent on account of a program is told apart.

* `Request.Lists` — a request for the runs of a program in one state.
* `RestClient.sends_waitForRun_lists`, `sends_waitForRuns_lists` — waits for runs send nothing else.
* `Request.Launches`, `Request.Quells` — what is sent to have a program run, and what to have it
  end, each with the wait for that.
* `Request.Aside` — what neither stops a program nor asks for its killed runs.
* `Event.Stopped`, `Event.Listed` — what such requests came to.

### What is load-bearing

**Runs in different states are asked for at one place**, so their requests are told apart by the
query alone.  It survives resolving, because a query holds nothing that ends it
(`ResourceCall.url_of_poses`).
-/

namespace AccessHarness

open Program (Leads)
open Transcript (ExtendsWithin)

namespace Request

/-- Where the runs of a program are listed. -/
def runsRoute (p : ProgramId) : List String :=
  ["namespaces", p.ns.name, "apps", p.application.name, p.type.category, p.name, "runs"]

theorem isName_of_mem_runsRoute {ns : NamespaceId} {app name : String} {type : ProgramType}
    (inside : Route.IsName ns.name) (own : Route.IsName app) (named : Route.IsName name) :
    ∀ s ∈ runsRoute ((ns.app app).program type name), Route.IsName s := by
  have category : Route.IsName type.category := by
    cases type <;> decide
  unfold runsRoute
  simp only [List.forall_mem_cons, List.not_mem_nil, false_implies, implies_true, and_true]
  exact ⟨by decide, inside, by decide, own, category, named, by decide⟩

/-- **A request for the runs of a program in one state.** -/
def Lists (status : RunStatus) (p : ProgramId) (r : Request) : Prop :=
  r.method = "GET" ∧ r.LeadsTo (runsRoute p) ∧
    r.url.query = some (ResourceCall.runsQuery status).toList

instance (status : RunStatus) (p : ProgramId) (r : Request) : Decidable (r.Lists status p) :=
  inferInstanceAs (Decidable (_ ∧ _ ∧ _))

theorem runsQuery_injective {status status' : RunStatus}
    (same : ResourceCall.runsQuery status = ResourceCall.runsQuery status') :
    status = status' := by
  cases status <;> cases status' <;> first | rfl | exact absurd same (by decide)

variable {r : Request} {d : Demand} {status status' : RunStatus} {ds : List Demand}
  {p p' : ProgramId}

/-- **A request asks for runs in one state, of one program.** -/
theorem Lists.eq (h : r.Lists status p) (h' : r.Lists status' p') :
    status = status' ∧ p.ns.name = p'.ns.name := by
  have routes : "v3" :: runsRoute p = "v3" :: runsRoute p' := by
    rcases h.2.1.suffix_or_suffix h'.2.1 with short | long
    · exact short.eq_of_length rfl
    · exact (long.eq_of_length rfl).symm
  simp only [runsRoute, List.cons.injEq, true_and] at routes
  refine ⟨runsQuery_injective (String.toList_inj.1 ?_), routes.1⟩
  exact Option.some.inj (h.2.2.symm.trans h'.2.2)

/-- No demand is made where runs are listed. -/
theorem Lists.not_makes (h : r.Lists status p) : ¬ r.Makes d p' := by
  intro made
  have routes : "v3" :: runsRoute p = "v3" :: d.route p' := by
    rcases h.2.1.suffix_or_suffix made.2 with short | long
    · exact short.eq_of_length rfl
    · exact (long.eq_of_length rfl).symm
  simp only [runsRoute, Demand.route, List.cons.injEq, and_true, true_and] at routes
  have word : "runs" = d.word := routes.2.2.2.2
  cases d <;> exact absurd word (by decide)

theorem Lists.spares (h : r.Lists status p') : r.Spares ds p := fun _ _ => h.not_makes

/-- No runs are listed elsewhere. -/
theorem IsElsewhere.not_lists (h : r.IsElsewhere) : ¬ r.Lists status p := by
  rintro ⟨method, leads, -⟩
  rcases h with put | ⟨front, last, along, other⟩
  · rw [put] at method
    exact absurd method (by decide)
  · have same : last = "runs" :=
      LeadsTo.last_eq ["namespaces", p.ns.name, "apps", p.application.name, p.type.category,
        p.name] leads along (by decide)
    apply other
    rw [same]
    exact List.mem_cons_self

/-! ### What is sent on account of a program -/

/-- **A request that has a program run**, or waits for that. -/
def Launches (p : ProgramId) (r : Request) : Prop :=
  r.Makes .start p ∨ r.Makes .available p ∨ r.Lists .running p

/-- **A request that has a program end**, or waits for that. -/
def Quells (p : ProgramId) (r : Request) : Prop := r.Makes .stop p ∨ r.Lists .killed p

/-- **A request that neither stops a program nor asks for its killed runs.** -/
def Aside (p : ProgramId) (r : Request) : Prop := r.Spares [.stop] p ∧ ¬ r.Lists .killed p

theorem Makes.aside (h : r.Makes d p') (apart : p'.ns.name ≠ p.ns.name ∨ d ≠ .stop) :
    r.Aside p := by
  refine ⟨h.spares (apart.imp_right ?_), fun listed => listed.not_makes h⟩
  intro other mem
  exact other (List.mem_singleton.1 mem)

theorem Lists.aside (h : r.Lists status p')
    (apart : p'.ns.name ≠ p.ns.name ∨ status ≠ .killed) : r.Aside p := by
  refine ⟨h.spares, ?_⟩
  intro listed
  obtain ⟨same, space⟩ := h.eq listed
  exact apart.elim (· space) (· same)

theorem IsElsewhere.aside (h : r.IsElsewhere) : r.Aside p := ⟨h.spares, h.not_lists⟩

/-- What has any program run is nothing to the end of one. -/
theorem Launches.aside (h : r.Launches p') : r.Aside p := by
  rcases h with made | made | listed
  · exact made.aside (.inr (by decide))
  · exact made.aside (.inr (by decide))
  · exact listed.aside (.inr (by decide))

/-- What has one program end is nothing to another. -/
theorem Quells.aside (h : r.Quells p') (apart : p'.ns.name ≠ p.ns.name) : r.Aside p :=
  h.elim (·.aside (.inl apart)) (·.aside (.inl apart))

/-- Whatever is sent on account of one program is not demanded of another. -/
theorem Launches.spares (h : r.Launches p') (apart : p'.ns.name ≠ p.ns.name) : r.Spares ds p := by
  rcases h with made | made | listed
  · exact made.spares (.inl apart)
  · exact made.spares (.inl apart)
  · exact listed.spares

theorem Quells.spares (h : r.Quells p') (apart : p'.ns.name ≠ p.ns.name) : r.Spares ds p :=
  h.elim (·.spares (.inl apart)) (·.spares)

/-- A post makes its demand, or it is aside. -/
theorem aside_of_post (posted : r.method = "POST") (other : ¬ r.LeadsTo (Demand.stop.route p)) :
    r.Aside p := by
  constructor
  · rintro d mem made
    rw [List.mem_singleton.1 mem] at made
    exact other made.2
  · rintro ⟨method, -⟩
    rw [posted] at method
    exact absurd method (by decide)

end Request

/-! ### Waits for runs -/

variable {env : Environment}

/-- Below the platform a request leads to the route of its operation. -/
theorem ResourceCall.leadsTo_of_poses {C : Type} {call : ResourceCall C} {c : RestClient}
    {r : Request} (own : call.service? = none) (named : ∀ s ∈ call.place.segments, Route.IsName s)
    (posed : call.Poses c r) : r.LeadsTo call.place.segments := by
  have url := url_of_poses (grounded_of_service?_eq_none own) posed
  have version : Route.IsName "v3" := by
    decide
  have whole : call.segments = "v3" :: call.place.segments := by
    unfold segments
    rw [own]
    rfl
  refine ⟨_, congrArg Url.path url, (call.base c).directory, ?_⟩
  rw [whole, Route.walk_encoded _ (List.forall_mem_cons.2 ⟨version, named⟩), List.reverse_reverse]

namespace RestClient

open Session (Sends sends_of_forget)

variable (c : RestClient) {p : ProgramId} (named : ∀ s ∈ Request.runsRoute p, Route.IsName s)

include named

/-- **An operation that asks for runs.** -/
theorem sends_runs_lists {C : Type} (call : ResourceCall C) {status : RunStatus}
    (own : call.service? = none)
    (place : call.place = ⟨"GET", Route.Part.ofProgram p "runs",
      some (ResourceCall.runsQuery status)⟩) :
    Sends (Request.Lists status p) env (call.run c) := by
  refine Session.Sends.weaken (fun r posed => ?_) (call.sends_run c)
  have segments : call.place.segments = Request.runsRoute p := by
    rw [place]
    rfl
  have leads := ResourceCall.leadsTo_of_poses own (segments ▸ named) posed
  have url := ResourceCall.url_of_poses (ResourceCall.grounded_of_service?_eq_none own) posed
  have query : call.query = some (ResourceCall.runsQuery status).toList := by
    unfold ResourceCall.query
    rw [place]
    rfl
  refine ⟨?_, segments ▸ leads, (congrArg Url.query url).trans query⟩
  rw [posed.1, place]

theorem sends_waitForRun_lists (status : RunStatus) (w : WaitSpec) :
    Sends (Request.Lists status p) env (c.waitForRun p status w) :=
  sends_of_forget (sends_runs_lists (C := Unit) c named (.waitForRun p status w) rfl rfl)

theorem sends_waitForRuns_lists (status : RunStatus) (count : Nat) (w : WaitSpec) :
    Sends (Request.Lists status p) env (c.waitForRuns p status count w) :=
  sends_of_forget (sends_runs_lists (C := Unit) c named (.waitForRuns p status count w) rfl rfl)

end RestClient

/-! ### What came of it -/

namespace Event

variable (p : ProgramId) (x : Event)

/-- **A program was stopped**: it was asked to, and that was accepted. -/
def Stopped : Prop :=
  ∃ r reply, x = .exchanged r reply ∧ r.Makes .stop p ∧ reply.isAccepted = true

/-- **A program was asked for its killed runs.** -/
def Listed : Prop := ∃ r reply, x = .exchanged r reply ∧ r.Lists .killed p

instance : Decidable (x.Stopped p) :=
  decidableExchanged x fun r reply => r.Makes .stop p ∧ reply.isAccepted = true

instance : Decidable (x.Listed p) :=
  decidableExchanged x fun r _ => r.Lists .killed p

variable {p} {x}

theorem Stopped.stopAsked (h : x.Stopped p) : x.StopAsked p := by
  obtain ⟨r, reply, rfl, made, -⟩ := h
  exact ⟨r, reply, rfl, made⟩

theorem not_stopAsked_of_aside (h : x.Asks (Request.Aside p)) : ¬ x.StopAsked p := by
  rintro ⟨r, reply, rfl, made⟩
  exact h.1 .stop List.mem_cons_self made

theorem not_listed_of_aside (h : x.Asks (Request.Aside p)) : ¬ x.Listed p := by
  rintro ⟨r, reply, rfl, listed⟩
  exact h.2 listed

theorem not_stopAsked_of_lists {status : RunStatus} {p' : ProgramId}
    (h : x.Asks (Request.Lists status p')) : ¬ x.StopAsked p := by
  rintro ⟨r, reply, rfl, made⟩
  exact h.not_makes made

/-- What asks a program to stop asks for none of its runs. -/
theorem StopAsked.not_listed (h : x.StopAsked p) : ¬ x.Listed p := by
  obtain ⟨r, reply, rfl, made⟩ := h
  rintro ⟨r', reply', same, listed⟩
  cases same
  exact listed.not_makes made

end Event

end AccessHarness
