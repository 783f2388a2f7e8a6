import AccessHarness.Proofs.Rest.Addresses
import AccessHarness.Proofs.Rest.Creations

/-!
# What is asked of a program

A program is started, stopped and asked whether it is available, each by a request to a place of its
own.  This file tells such requests from all others.

* `Demand`, `Request.Makes` — the three, and the requests that make them.
* `Request.Makes.eq` — a request makes one of them, of one program.
* `Request.Spares` — a request that makes none of some demands of a program.
* `Request.IsElsewhere` — a request that concerns no program at all.
* `RestClient.sends_grantPrivileges`, … — the operations of which that is all there is to say.
* `Event.Started`, `Event.StopAsked`, `Event.FoundAvailable` — what such a request came to.
* `Transcript.LeavesRunning` — a program was started, and nobody asked for it to stop since.
* `RestClient.serviceUrl_cases` — a wait for a service ends well exactly if the service was found
  available.

### What is load-bearing

**Most requests end in another word** than the three, and a path keeps its last segment through
everything that resolving does to it, unless it is a dot form (`Url.GoesAlong.getLast?`).  So almost
nothing has to be known of the base, of the names in front, or of the client.  Only the demands
themselves are told apart by all of their route.
-/

namespace AccessHarness

open Program (Leads)
open Transcript (ExtendsWithin Outstanding)

/-- **What is asked of a program.** -/
inductive Demand where
  | start
  | stop
  | available
  deriving DecidableEq

namespace Demand

/-- How it is asked. -/
def method : Demand → String
  | start => "POST"
  | stop => "POST"
  | available => "GET"

/-- The last word of its route. -/
def word : Demand → String
  | start => "start"
  | stop => "stop"
  | available => "available"

/-- Where a program is asked. -/
def route (d : Demand) (p : ProgramId) : List String :=
  ["namespaces", p.ns.name, "apps", p.application.name, p.type.category, p.name, d.word]

/-- The last words of the three. -/
def words : List String := ["start", "stop", "available"]

theorem word_mem_words (d : Demand) : d.word ∈ words := by
  cases d <;> decide

theorem word_injective {d d' : Demand} (h : d.word = d'.word) : d = d' := by
  cases d <;> cases d' <;> first | rfl | exact absurd h (by decide)

/-- The route of a program holds three names that are not fixed. -/
theorem isName_of_mem_route {ns : NamespaceId} {app name : String} {type : ProgramType}
    (inside : Route.IsName ns.name) (own : Route.IsName app) (named : Route.IsName name)
    (d : Demand) : ∀ s ∈ d.route ((ns.app app).program type name), Route.IsName s := by
  have category : Route.IsName type.category := by
    cases type <;> decide
  have word : Route.IsName d.word := by
    cases d <;> decide
  unfold route
  simp only [List.forall_mem_cons, List.not_mem_nil, false_implies, implies_true, and_true]
  exact ⟨by decide, inside, by decide, own, category, named, word⟩

end Demand

namespace Request

/-- **A request that makes a demand of a program.** -/
def Makes (d : Demand) (p : ProgramId) (r : Request) : Prop :=
  r.method = d.method ∧ r.LeadsTo (d.route p)

instance (d : Demand) (p : ProgramId) (r : Request) : Decidable (r.Makes d p) :=
  inferInstanceAs (Decidable (_ ∧ _))

/-- **A request makes one demand, of one program.** -/
theorem Makes.eq {r : Request} {d d' : Demand} {p p' : ProgramId} (h : r.Makes d p)
    (h' : r.Makes d' p') : d = d' ∧ p.ns.name = p'.ns.name := by
  have routes : "v3" :: d.route p = "v3" :: d'.route p' := by
    rcases h.2.suffix_or_suffix h'.2 with short | long
    · exact short.eq_of_length rfl
    · exact (long.eq_of_length rfl).symm
  simp only [Demand.route, List.cons.injEq, and_true, true_and] at routes
  exact ⟨Demand.word_injective routes.2.2.2.2, routes.1⟩

/-- **A request that makes none of some demands** of a program. -/
def Spares (ds : List Demand) (p : ProgramId) (r : Request) : Prop :=
  ∀ d ∈ ds, ¬ r.Makes d p

variable {r : Request} {ds : List Demand} {p : ProgramId}

/-- A demand is no other demand, and one of another program. -/
theorem Makes.spares {d : Demand} {p' : ProgramId} (h : r.Makes d p')
    (apart : p'.ns.name ≠ p.ns.name ∨ d ∉ ds) : r.Spares ds p := by
  intro d' mem made
  obtain ⟨rfl, space⟩ := h.eq made
  rcases apart with other | absent
  · exact other space
  · exact absent mem

/-- Programs are started and stopped by what is posted. -/
theorem spares_of_method (other : r.method ≠ "POST") (known : .available ∉ ds) :
    r.Spares ds p := by
  rintro d mem ⟨method, -⟩
  cases d with
  | start => exact other method
  | stop => exact other method
  | available => exact known mem

/-- **The last word of a route** is that of every request that leads there. -/
theorem LeadsTo.last_eq (segments : List String) {front : List String} {word last : String}
    (h : r.LeadsTo (segments ++ [word])) (along : r.url.GoesAlong (front ++ [last]))
    (named : word ≠ "") : last = word := by
  obtain ⟨l, path, before, rfl⟩ := h
  obtain ⟨l', path', final⟩ := along.getLast?
  rw [path, UrlPath.rooted.injEq] at path'
  subst path'
  have whole : (before ++ ("v3" :: (segments ++ [word])).map Route.encoded).getLast? =
      some (Route.encoded word) := by
    rw [← List.cons_append, List.map_append, ← List.append_assoc]
    exact List.getLast?_concat
  rw [final, Option.some.injEq] at whole
  split at whole
  · -- a dot form leaves an empty segment behind
    have empty : Route.encoded "" = [] := by
      decide
    exact absurd (Route.encoded_inj.1 (empty.trans whole)).symm named
  · rwa [Route.encodeSegment_encoded, Route.encoded_inj] at whole

/-- **A request that ends in another word** makes no demand of any program. -/
theorem spares_of_goesAlong {front : List String} {last : String}
    (along : r.url.GoesAlong (front ++ [last])) (other : last ∉ Demand.words) :
    r.Spares ds p := by
  rintro d - ⟨-, leads⟩
  have named : d.word ≠ "" := by
    cases d <;> decide
  have same : last = d.word :=
    LeadsTo.last_eq ["namespaces", p.ns.name, "apps", p.application.name, p.type.category, p.name]
      leads along named
  apply other
  rw [same]
  exact d.word_mem_words

/-- **A request that concerns no program**: it puts something somewhere, or goes to a place that is
none of a program's. -/
def IsElsewhere (r : Request) : Prop :=
  r.method = "PUT" ∨ ∃ front last, r.url.GoesAlong (front ++ [last]) ∧
    last ∉ "runs" :: Demand.words

theorem IsElsewhere.spares (h : r.IsElsewhere) : r.Spares ds p := by
  rcases h with put | ⟨front, last, along, other⟩
  · rintro d - ⟨method, -⟩
    rw [put] at method
    cases d <;> exact absurd method (by decide)
  · exact spares_of_goesAlong along fun mem => other (List.mem_cons_of_mem _ mem)

end Request

variable {env : Environment} {ds : List Demand} {p : ProgramId} {α : Type}

/-- What is true of a session whose value is of no interest is true of the session. -/
theorem Session.sends_of_forget {kind : Request → Prop} {m : Session α}
    (h : Session.Sends kind env m.forget) : Session.Sends kind env m := by
  intro t
  have forgotten := h t
  unfold Session.forget at forgotten
  rw [Program.bind_apply] at forgotten
  rcases run : m env t with ⟨f | a, t'⟩ <;> rw [run] at forgotten <;> exact forgotten

/-! ### Operations that make no demand -/

/-- What concerns no program makes no demand of any. -/
theorem Session.Sends.sparing {m : Session α} (h : Session.Sends Request.IsElsewhere env m) :
    Session.Sends (Request.Spares ds p) env m :=
  Session.Sends.weaken (fun _ => Request.IsElsewhere.spares) h

namespace ResourceCall

variable {C : Type} (call : ResourceCall C) (c : RestClient)

/-- **Every request of an operation has its method, and its last word.** -/
theorem sends_along {last : String} (ends : call.place.segments.getLast? = some last) :
    Session.Sends (fun r => r.method = call.place.method ∧
      ∃ front, r.url.GoesAlong (front ++ [last])) env (call.run c) := by
  refine Session.Sends.weaken (fun r posed => ⟨posed.1, ?_⟩) (call.sends_run c)
  obtain ⟨front, split⟩ := List.getLast?_eq_some_iff.1 ends
  have along := goesAlong_of_poses posed
  unfold segments at along
  rw [split] at along
  split at along
  · exact ⟨front, along⟩
  · exact ⟨"v3" :: front, along⟩

/-- **An operation concerns no program** if it puts something somewhere, or its route ends in
another word. -/
theorem sends_elsewhere (last : String) (ends : call.place.segments.getLast? = some last)
    (other : call.place.method = "PUT" ∨ last ∉ "runs" :: Demand.words) :
    Session.Sends Request.IsElsewhere env (call.run c) := by
  refine Session.Sends.weaken ?_ (call.sends_along c ends)
  rintro r ⟨method, front, along⟩
  exact other.imp (method.trans ·) fun other => ⟨front, last, along, other⟩

/-- What asks for runs makes no demand. -/
theorem sends_runs_sparing (ends : call.place.segments.getLast? = some "runs") :
    Session.Sends (Request.Spares ds p) env (call.run c) := by
  refine Session.Sends.weaken ?_ (call.sends_along c ends)
  rintro r ⟨-, front, along⟩
  exact Request.spares_of_goesAlong along (by decide)

end ResourceCall

namespace RestClient

open ResourceCall (sends_elsewhere sends_runs_sparing)
open Session (Sends sends_of_forget leads_ofOutcome)

variable (c : RestClient)

theorem sends_grantPrivileges (request : GrantRequest) :
    Sends Request.IsElsewhere env (c.grantPrivileges request) :=
  sends_elsewhere (C := Unit) (.grantPrivileges request) c "grant" rfl (.inr (by decide))

theorem sends_revokePrivileges (request : RevokeRequest) :
    Sends Request.IsElsewhere env (c.revokePrivileges request) :=
  sends_elsewhere (C := Unit) (.revokePrivileges request) c "revoke" rfl (.inr (by decide))

theorem sends_listPrivileges (principal : Principal) :
    Sends Request.IsElsewhere env (c.listPrivileges principal) :=
  sends_of_forget (sends_elsewhere (C := Unit) (.listPrivileges principal) c "privileges" rfl
    (.inr (by decide)))

theorem sends_createNamespace (ns : NamespaceMeta) :
    Sends Request.IsElsewhere env (c.createNamespace ns) :=
  sends_elsewhere (C := Unit) (.createNamespace ns) c ns.name rfl (.inl rfl)

theorem sends_deployApp {C : Type} (app : ApplicationId) (encode : C → Json)
    (request : AppRequest C) : Sends Request.IsElsewhere env (c.deployApp app encode request) :=
  sends_elsewhere (.deployApp app encode request) c app.name rfl (.inl rfl)

theorem sends_addArtifact {a : ArtifactId} (other : a.name ∉ "runs" :: Demand.words)
    (parents : List String) (content : List UInt8) :
    Sends Request.IsElsewhere env (c.addArtifact a parents content) :=
  sends_elsewhere (C := Unit) (.addArtifact a parents content) c a.name rfl (.inr other)

theorem sends_tableGet (service : Url) (d : DatasetId) (request : TableGet) :
    Sends Request.IsElsewhere env (c.tableGet service d request) :=
  sends_of_forget (sends_elsewhere (C := Unit) (.tableGet service d request) c "get" rfl
    (.inr (by decide)))

theorem sends_tablePut (service : Url) (d : DatasetId) (request : TablePut) :
    Sends Request.IsElsewhere env (c.tablePut service d request) :=
  sends_elsewhere (C := Unit) (.tablePut service d request) c "put" rfl (.inr (by decide))

theorem sends_tableIncrement (service : Url) (d : DatasetId) (request : TableIncrement) :
    Sends Request.IsElsewhere env (c.tableIncrement service d request) :=
  sends_of_forget (sends_elsewhere (C := Unit) (.tableIncrement service d request) c
    "incrementAndGet" rfl (.inr (by decide)))

theorem sends_waitForRun (p' : ProgramId) (status : RunStatus) (w : WaitSpec) :
    Sends (Request.Spares ds p) env (c.waitForRun p' status w) :=
  sends_of_forget (sends_runs_sparing (C := Unit) (.waitForRun p' status w) c rfl)

theorem sends_waitForRuns (p' : ProgramId) (status : RunStatus) (count : Nat) (w : WaitSpec) :
    Sends (Request.Spares ds p) env (c.waitForRuns p' status count w) :=
  sends_of_forget (sends_runs_sparing (C := Unit) (.waitForRuns p' status count w) c rfl)

/-- Tokens are asked for at a place of their own. -/
theorem sends_login (e : Endpoint) (u : Credentials) :
    Sends Request.IsElsewhere env (RestClient.login e u) := by
  have fetched : Sends Request.IsElsewhere env (fetchToken e u) := by
    refine Session.sends_ofOutcome_bind fun url resolved => ?_
    refine .bind (Session.sends_send fun web => ?_) fun _ =>
      .bind (leads_ofOutcome _) fun _ => leads_ofOutcome _
    have joined : e.authUrl.joinBelow? "token" = .ok url := by
      unfold resolveBelow at resolved
      split at resolved
      · cases resolved
        assumption
      · cases resolved
    have written : "token".toList.dropWhile (· == '/') =
        Route.written "token" [] ++ Route.queryChars none := by
      decide
    rw [Url.joinBelow?, written] at joined
    have along := Url.goesAlong_of_resolve? (by decide) Route.isQuery_none joined web
    exact .inr ⟨[], "token", along, by decide⟩
  exact .bind fetched fun _ => .pure _

/-! ### Operations that make one -/

section

variable {c} {service : ProgramId} (named : ∀ d : Demand, ∀ s ∈ d.route service, Route.IsName s)

include named

/-- **A demand is sent as one.** -/
theorem makes_of_request {d : Demand} {body : Body} {r : Request}
    (sent : c.request d.method (Route.path (d.route service)) body = .ok r) :
    r.Makes d service :=
  ⟨(request_eq_ok sent).1, leadsTo_of_request sent (named d)⟩

theorem sends_startProgram (args : Properties) :
    Sends (Request.Makes .start service) env (c.startProgram service args) :=
  sends_post fun _ sent => makes_of_request named (d := .start) sent

theorem sends_stopProgram : Sends (Request.Makes .stop service) env (c.stopProgram service) :=
  sends_post fun _ sent => makes_of_request named (d := .stop) sent

theorem sends_serviceUrl (w : WaitSpec) :
    Sends (Request.Makes .available service) env (c.serviceUrl service w) :=
  leads_serviceUrl_of_probe (Session.sends_sleep env) w
    (sends_probe fun _ sent => makes_of_request named (d := .available) sent)

end

end RestClient

/-! ### What came of it -/

/-- Whether a reply says that a service is available. -/
def Reply.saysAvailable : Reply → Bool
  | .answered r => r.status == 200
  | _ => false

namespace Event

variable (p : ProgramId) (x : Event)

/-- **A program was started.** -/
def Started : Prop :=
  ∃ r reply, x = .exchanged r reply ∧ r.Makes .start p ∧ reply.isAccepted = true

/-- **A program was asked to stop**, whatever came of it. -/
def StopAsked : Prop :=
  ∃ r reply, x = .exchanged r reply ∧ r.Makes .stop p

/-- **A service was found available.** -/
def FoundAvailable : Prop :=
  ∃ r reply, x = .exchanged r reply ∧ r.Makes .available p ∧ reply.saysAvailable = true

instance : Decidable (x.Started p) :=
  decidableExchanged x fun r reply => r.Makes .start p ∧ reply.isAccepted = true

instance : Decidable (x.StopAsked p) :=
  decidableExchanged x fun r _ => r.Makes .stop p

instance : Decidable (x.FoundAvailable p) :=
  decidableExchanged x fun r reply => r.Makes .available p ∧ reply.saysAvailable = true

variable {p} {x} {ds : List Demand}

theorem not_started_of_asks (h : x.Asks (Request.Spares ds p)) (mem : .start ∈ ds) :
    ¬ x.Started p := by
  rintro ⟨r, reply, rfl, made, -⟩
  exact h .start mem made

theorem not_stopAsked_of_asks (h : x.Asks (Request.Spares ds p)) (mem : .stop ∈ ds) :
    ¬ x.StopAsked p := by
  rintro ⟨r, reply, rfl, made⟩
  exact h .stop mem made

theorem not_foundAvailable_of_asks (h : x.Asks (Request.Spares ds p)) (mem : .available ∈ ds) :
    ¬ x.FoundAvailable p := by
  rintro ⟨r, reply, rfl, made, -⟩
  exact h .available mem made

/-- Nothing that starts a program asks it to stop. -/
theorem Started.not_stopAsked (h : x.Started p) : ¬ x.StopAsked p := by
  obtain ⟨r, reply, rfl, made, -⟩ := h
  rintro ⟨r', reply', same, made'⟩
  cases same
  exact absurd (made.eq made').1 (by decide)

end Event

/-- **A program is left running**: it was started, and nobody asked it to stop since. -/
def Transcript.LeavesRunning (during : Transcript) (p : ProgramId) : Prop :=
  Outstanding (Event.Started p) (Event.StopAsked p) during

instance (during : Transcript) (p : ProgramId) : Decidable (during.LeavesRunning p) :=
  inferInstanceAs (Decidable (Outstanding _ _ during))

namespace RestClient

theorem availabilityOf_eq_ok_true_iff {reply : Reply} :
    availabilityOf reply = .ok true ↔ reply.saysAvailable = true := by
  cases reply with
  | answered r =>
    simp only [availabilityOf, availability, Reply.saysAvailable, beq_iff_eq]
    split_ifs <;> simp [*]
  | unreachable => exact iff_of_false (by rintro ⟨⟩) (by rintro ⟨⟩)
  | dropped => exact iff_of_false (by rintro ⟨⟩) (by rintro ⟨⟩)

/-- Any route leads somewhere for a client that can send. -/
theorem exists_url_of_canSend {c : RestClient} (sends : c.CanSend) (segments : List String) :
    ∃ u, c.url (Route.path segments) = .ok u := by
  obtain ⟨r, sent⟩ := (c.request_route_iff "GET" segments .empty).2 sends
  exact ⟨r.url, (request_eq_ok sent).2.2.1⟩

/-- The address of the methods of a service is that of an unnamed thing below them. -/
theorem methods_path (service : ProgramId) :
    Route.program service "methods" ++ "/" =
      Route.path ["namespaces", service.ns.name, "apps", service.application.name,
        service.type.category, service.name, "methods", ""] := by
  rw [← String.toList_inj, String.toList_append, Route.program, Route.toList_path,
    Route.toList_path]
  simp only [Route.written, List.flatMap_cons, List.flatMap_nil, List.append_nil,
    List.append_assoc, List.cons_append]
  rfl

section

variable {c : RestClient} {service : ProgramId}
  (named : ∀ d : Demand, ∀ s ∈ d.route service, Route.IsName s)

include named

/-- **To ask whether a service is available** finds it so, or comes to nothing. -/
theorem available_step (env : Environment) (t : Transcript) :
    let run := c.available service env t
    (run.1 = .ok true ∧ c.CanSend ∧ ∃ x, run.2 = x :: t ∧ x.FoundAvailable service) ∨
      (run.1 ≠ .ok true ∧
        ExtendsWithin (fun x => ¬ x.StopAsked service ∧ ¬ x.FoundAvailable service) t run.2) := by
  intro run
  rcases available_cases c service env t with ⟨f, silent⟩ | ⟨r, sent, asked⟩
  · have same : run = (.error f, t) := silent
    rw [same]
    exact .inr ⟨nofun, refl_of _ t⟩
  · have made : r.Makes .available service := makes_of_request named (d := .available) sent
    have same : run = (availabilityOf (env.respond t r), env.after t r) := asked
    rw [same]
    by_cases available : (env.respond t r).saysAvailable = true
    · refine .inl ⟨availabilityOf_eq_ok_true_iff.2 available, ?_, ?_⟩
      · exact (c.request_route_iff "GET" _ .empty).1 ⟨r, sent⟩
      · exact ⟨_, rfl, r, _, rfl, made, available⟩
    · refine .inr ⟨fun found => available (availabilityOf_eq_ok_true_iff.1 found), ?_⟩
      refine Transcript.extendsWithin_cons t ⟨?_, ?_⟩
      · rintro ⟨r', reply, other, made'⟩
        cases other
        exact absurd (made.eq made').1 (by decide)
      · rintro ⟨r', reply, other, -, available'⟩
        cases other
        exact available available'

/-- **A wait for a service ends well exactly if the service was found available**, and nobody asks
it to stop meanwhile. -/
theorem serviceUrl_cases (w : WaitSpec) (env : Environment) (t : Transcript) :
    (∃ url t', c.serviceUrl service w env t = (.ok url, t') ∧ c.CanSend ∧ t <:+ t' ∧
        ∃ x ∈ t'.since t, x.FoundAvailable service) ∨
      ∃ f t', c.serviceUrl service w env t = (.error f, t') ∧
        ExtendsWithin (fun x => ¬ x.StopAsked service ∧ ¬ x.FoundAvailable service) t t' := by
  let Quiet := ExtendsWithin (fun x => ¬ x.StopAsked service ∧ ¬ x.FoundAvailable service)
  have unaccepted (t : Transcript)
      (notYet : ∀ v, (c.available service env t).1 = .ok v → (v == true) = false) :
      Quiet t (c.available service env t).2 := by
    rcases available_step named env t with ⟨found, -⟩ | ⟨-, quiet⟩
    · exact absurd (notYet true found) (by decide)
    · exact quiet
  let := env.timeline
  have slept (d : Nat) (t : Transcript) : Quiet t (Timeline.sleep d t) :=
    Transcript.extendsWithin_cons t ⟨by rintro ⟨r, reply, ⟨⟩, -⟩, by rintro ⟨r, reply, ⟨⟩, -⟩⟩
  have waited := @WaitSpec.waitForValue_cases _ _ _ w Quiet _ (c.available service env)
    (fun v => v == true) (fun b => if b then "true" else "false") unaccepted slept t
  rw [serviceUrl_eq, Program.bind_apply]
  unfold Session.waitForValue
  rcases waited with ⟨v, u, before, yielded, accepted, ended⟩ | ⟨f, t', before, ended⟩
  · rw [beq_iff_eq.1 accepted] at yielded
    rcases available_step named env u with ⟨-, sends, x, step, found⟩ | ⟨other, -⟩
    · obtain ⟨url, resolved⟩ := exists_url_of_canSend sends
        ["namespaces", service.ns.name, "apps", service.application.name, service.type.category,
          service.name, "methods", ""]
      rw [step] at ended
      rw [ended]
      have grows : t <:+ x :: u := before.grows.trans (List.suffix_cons x u)
      refine .inl ⟨url, x :: u, ?_, sends, grows, x, ?_, found⟩
      · show Session.ofOutcome (c.url (Route.program service "methods" ++ "/")) env (x :: u) = _
        rw [methods_path, resolved]
        rfl
      · rw [Transcript.since_trans before.grows (List.suffix_cons x u), Transcript.since_cons]
        exact List.mem_cons_self
    · exact absurd yielded other
  · rw [ended]
    exact .inr ⟨f, t', rfl, before⟩

end

end RestClient

end AccessHarness
