import AccessHarness.Pipeline.Rows
import AccessHarness.Proofs.Rest.Places
import AccessHarness.Proofs.Rest.Sending
import AccessHarness.Proofs.Session.Outstanding
import AccessHarness.Routes.Namespace

/-!
# What is created and removed

Namespaces, applications, datasets and streams are created by a request to put them where they
belong, and removed by a request to delete them or their namespace.

* `Request.Creates`, `Request.Removes` — the requests that do so, by where they lead.
* `Event.Created`, `Event.Removed` — such a request that was carried out.
* `Transcript.Lasting` — what was created and not removed since.
* `Transcript.FirstLasts` — what was created by the first request for it and by no other.
* `Session.CreatesNothing` — programs that create nothing, whatever is answered.

### What is load-bearing

**A request creates one thing at most** (`Request.Creates.eq`).  It is told by the last but one
segment of its route what kind of thing that is, and a route of one kind is never the end of one of
another: the version stands in front of both.  For the same reason the properties of a dataset are
no dataset (`createsNothing_updateDataset`).
-/

namespace AccessHarness

open Program (Leads)
open Transcript (ExtendsWithin)

/-! ### Routes -/

namespace EntityId

/-- **Where a thing is created**, for the kinds that are. -/
def creationRoute? : EntityId → Option (List String)
  | .space ns => some ["namespaces", ns]
  | .application ns name => some ["namespaces", ns, "apps", name]
  | .dataset ns name => some ["namespaces", ns, "data", "datasets", name]
  | .stream ns name => some ["namespaces", ns, "streams", name]
  | _ => none

/-- Where a thing is removed: a namespace has a place of its own for that. -/
def removalRoute? : EntityId → Option (List String)
  | .space ns => some ["unrecoverable", "namespaces", ns]
  | e => e.creationRoute?

/-- A thing whose names can stand in a path. -/
def IsNamed (e : EntityId) : Prop := ∀ route ∈ e.creationRoute?, ∀ s ∈ route, Route.IsName s

section

variable {ns name : String} (inside : Route.IsName ns) (own : Route.IsName name)

include inside

theorem isNamed_space : (space ns).IsNamed := by
  rintro _ ⟨⟩
  simpa [inside] using (by decide : Route.IsName "namespaces")

include own

theorem isNamed_application : (application ns name).IsNamed := by
  rintro _ ⟨⟩
  simpa [inside, own] using (by decide : Route.IsName "namespaces" ∧ Route.IsName "apps")

theorem isNamed_dataset : (dataset ns name).IsNamed := by
  rintro _ ⟨⟩
  simpa [inside, own] using
    (by decide : Route.IsName "namespaces" ∧ Route.IsName "data" ∧ Route.IsName "datasets")

theorem isNamed_stream : (stream ns name).IsNamed := by
  rintro _ ⟨⟩
  simpa [inside, own] using (by decide : Route.IsName "namespaces" ∧ Route.IsName "streams")

end

/-- Things that are created at the end of one another's routes are the same. -/
theorem eq_of_suffix {e e' : EntityId} {route route' : List String}
    (h : e.creationRoute? = some route) (h' : e'.creationRoute? = some route')
    (ends : "v3" :: route <:+ "v3" :: route') : e = e' := by
  cases e <;> cases h <;> cases e' <;> cases h' <;> simp [List.suffix_cons_iff] at ends ⊢ <;>
    exact ends

end EntityId

namespace Request

variable {r : Request} {e e' : EntityId}

/-- **A request to create a thing.** -/
def Creates (r : Request) (e : EntityId) : Prop :=
  r.method = "PUT" ∧ ∃ route ∈ e.creationRoute?, r.LeadsTo route

/-- **A request to remove a thing**, or its namespace. -/
def Removes (r : Request) (e : EntityId) : Prop :=
  r.method = "DELETE" ∧ ∃ gone ∈ e :: (e.namespaceName.map .space).toList,
    ∃ route ∈ gone.removalRoute?, r.LeadsTo route

instance (r : Request) (e : EntityId) : Decidable (r.Creates e) :=
  inferInstanceAs (Decidable (_ ∧ _))

instance (r : Request) (e : EntityId) : Decidable (r.Removes e) :=
  inferInstanceAs (Decidable (_ ∧ _))

/-- **A request creates one thing at most.** -/
theorem Creates.eq (h : r.Creates e) (h' : r.Creates e') : e = e' := by
  obtain ⟨-, route, created, leads⟩ := h
  obtain ⟨-, route', created', leads'⟩ := h'
  rcases leads.suffix_or_suffix leads' with short | long
  · exact EntityId.eq_of_suffix created created' short
  · exact (EntityId.eq_of_suffix created' created long).symm

end Request

/-! ### What was carried out -/

/-- Something was created. -/
def Event.Created (x : Event) (e : EntityId) : Prop :=
  ∃ r reply, x = .exchanged r reply ∧ r.Creates e ∧ reply.isAccepted = true

/-- Something was removed, by itself or with its namespace. -/
def Event.Removed (x : Event) (e : EntityId) : Prop :=
  ∃ r reply, x = .exchanged r reply ∧ r.Removes e ∧ reply.isAccepted = true

/-- What is said of an exchange. -/
def decidableExchanged (x : Event) (p : Request → Reply → Prop)
    [∀ r reply, Decidable (p r reply)] :
    Decidable (∃ r reply, x = .exchanged r reply ∧ p r reply) :=
  match x with
  | .exchanged r reply => decidable_of_iff (p r reply)
      ⟨fun h => ⟨r, reply, rfl, h⟩, fun ⟨_, _, same, h⟩ => by cases same; exact h⟩
  | .slept _ => isFalse fun ⟨_, _, same, _⟩ => by cases same

instance (x : Event) (e : EntityId) : Decidable (x.Created e) :=
  decidableExchanged x fun r reply => r.Creates e ∧ reply.isAccepted = true

instance (x : Event) (e : EntityId) : Decidable (x.Removed e) :=
  decidableExchanged x fun r reply => r.Removes e ∧ reply.isAccepted = true

/-- Somebody tried to create a thing, whatever the answer was. -/
def Event.AsksFor (x : Event) (e : EntityId) : Prop :=
  ∃ r reply, x = .exchanged r reply ∧ r.Creates e

/-- Nobody tried to create anything. -/
def Event.IsBarren (x : Event) : Prop := ∀ e, ¬ x.AsksFor e

theorem Event.Created.asksFor {x : Event} {e : EntityId} (h : x.Created e) : x.AsksFor e := by
  obtain ⟨r, reply, same, creates, -⟩ := h
  exact ⟨r, reply, same, creates⟩

theorem Event.AsksFor.eq {x : Event} {e e' : EntityId} (h : x.AsksFor e) (h' : x.AsksFor e') :
    e = e' := by
  obtain ⟨r, reply, rfl, creates⟩ := h
  obtain ⟨r', reply', same, creates'⟩ := h'
  cases same
  exact creates.eq creates'

theorem Event.IsBarren.not_created {x : Event} (h : x.IsBarren) (e : EntityId) :
    ¬ x.Created e := fun created => h e created.asksFor

namespace Transcript

/-- **What lasts**: it was created, and not removed since. -/
def Lasting (during : Transcript) (e : EntityId) : Prop :=
  ∃ later x earlier, during = later ++ x :: earlier ∧ x.Created e ∧ ∀ y ∈ later, ¬ y.Removed e

variable {e : EntityId}

theorem not_lasting_of_barren {during : Transcript} (barren : ∀ x ∈ during, ¬ x.Created e) :
    ¬ during.Lasting e :=
  not_outstanding_of_forall barren

theorem lasting_singleton {x : Event} : Lasting [x] e ↔ x.Created e :=
  outstanding_singleton

/-- **What lasts of two stretches**: what lasts of the second, and what lasts of the first and was
not removed in the second. -/
theorem lasting_append {first second : Transcript} :
    Lasting (second ++ first) e ↔
      second.Lasting e ∨ first.Lasting e ∧ ∀ y ∈ second, ¬ y.Removed e :=
  outstanding_append

/-- What lasts of one more event. -/
theorem lasting_cons {x : Event} {during : Transcript} :
    Lasting (x :: during) e ↔ x.Created e ∨ during.Lasting e ∧ ¬ x.Removed e :=
  outstanding_cons

instance decidableLasting (during : Transcript) (e : EntityId) : Decidable (during.Lasting e) :=
  inferInstanceAs (Decidable (Outstanding (fun x => x.Created e) (fun x => x.Removed e) during))

/-- **Nobody but the first to try created a thing**, which lasts: the first request to create it was
carried out, no later one was, and it was not removed. -/
def FirstLasts (during : Transcript) (e : EntityId) : Prop :=
  ∃ later x earlier, during = later ++ x :: earlier ∧ x.Created e ∧
    (∀ y ∈ earlier, ¬ y.AsksFor e) ∧ ∀ y ∈ later, ¬ y.Created e ∧ ¬ y.Removed e

theorem FirstLasts.lasting {during : Transcript} (h : during.FirstLasts e) : during.Lasting e := by
  obtain ⟨later, x, earlier, split, created, -, kept⟩ := h
  exact ⟨later, x, earlier, split, created, fun y mem => (kept y mem).2⟩

/-- There is only one first request. -/
theorem firstLasts_iff {later earlier : Transcript} {x : Event} (asks : x.AsksFor e)
    (first : ∀ y ∈ earlier, ¬ y.AsksFor e) :
    FirstLasts (later ++ x :: earlier) e ↔
      x.Created e ∧ ∀ y ∈ later, ¬ y.Created e ∧ ¬ y.Removed e := by
  constructor
  · rintro ⟨later', x', earlier', split, created, first', kept⟩
    rcases List.append_eq_append_iff.1 split with ⟨middle, rfl, rest⟩ | ⟨middle, rfl, rest⟩
    · cases middle with
      | nil =>
        obtain ⟨rfl, rfl⟩ := List.cons.inj rest
        rw [List.append_nil] at kept
        exact ⟨created, kept⟩
      | cons y middle =>
        obtain ⟨rfl, rfl⟩ := List.cons.inj rest
        exact absurd created.asksFor (first x' (List.mem_append_right _ List.mem_cons_self))
    · cases middle with
      | nil =>
        obtain ⟨rfl, rfl⟩ := List.cons.inj rest
        rw [List.append_nil]
        exact ⟨created, kept⟩
      | cons y middle =>
        obtain ⟨rfl, rfl⟩ := List.cons.inj rest
        exact absurd asks (first' x (List.mem_append_right _ List.mem_cons_self))
  · rintro ⟨created, kept⟩
    exact ⟨later, x, earlier, rfl, created, first, kept⟩

end Transcript

/-! ### Programs that create nothing -/

variable {env : Environment} {α : Type}

/-- **A program that creates nothing**, and does not even ask for it. -/
abbrev Session.CreatesNothing (env : Environment) (m : Session α) : Prop :=
  Leads (ExtendsWithin Event.IsBarren) env m

theorem Event.isBarren_of_method_ne {r : Request} {reply : Reply} (other : r.method ≠ "PUT") :
    (Event.exchanged r reply).IsBarren := by
  rintro e ⟨r', reply', same, creates⟩
  cases same
  exact other creates.1

namespace Session

/-- **Whoever puts nothing creates nothing.** -/
theorem Sends.createsNothing {m : Session α}
    (h : Sends (fun r => r.method ≠ "PUT") env m) : CreatesNothing env m := by
  refine Leads.mono ?_ h
  rintro t t' ⟨grows, within⟩
  refine ⟨grows, ?_⟩
  intro x mem
  cases x with
  | exchanged r reply => exact Event.isBarren_of_method_ne (within _ mem)
  | slept d => rintro e ⟨r, reply, ⟨⟩, -⟩

theorem createsNothing_send {r : Request} (other : r.method ≠ "PUT") :
    CreatesNothing env (send r) :=
  (sends_send fun _ => other).createsNothing

theorem createsNothing_sleep (env : Environment) (d : Nat) : CreatesNothing env (sleep d) :=
  (sends_sleep env d).createsNothing

theorem createsNothing_timeOfDay : CreatesNothing env timeOfDay :=
  sends_timeOfDay.createsNothing

theorem createsNothing_fileContent (path : String) : CreatesNothing env (fileContent path) :=
  (sends_fileContent path).createsNothing

end Session

open Session (CreatesNothing leads_ofOutcome)

namespace RestClient

variable (c : RestClient)

/-- **Putting a document is one exchange, or none.** -/
theorem putJson_apply (path : String) (document : Json) (t : Transcript) :
    c.putJson path document env t =
      match c.request "PUT" path (.json document) with
      | .error f => (.error f, t)
      | .ok r => ((env.respond t r).outcome.map fun _ => (), env.after t r) := by
  unfold putJson
  rw [Program.bind_apply, call_apply]
  cases c.request "PUT" path (.json document) with
  | error f => rfl
  | ok r =>
    simp only
    cases (env.respond t r).outcome <;> rfl

variable {c} in
/-- A request for the place where a thing is created is a request to create it. -/
theorem creates_of_request {e : EntityId} {segments : List String} {body : Body} {r : Request}
    (sent : c.request "PUT" (Route.path segments) body = .ok r)
    (route : e.creationRoute? = some segments) (named : e.IsNamed) : r.Creates e :=
  ⟨(request_eq_ok sent).1, segments, route, leadsTo_of_request sent (named segments route)⟩

/-- **Creating a thing fails and creates nothing, or succeeds and does.** -/
theorem putJson_cases (env : Environment) {e : EntityId} {segments : List String}
    (route : e.creationRoute? = some segments) (named : e.IsNamed) (document : Json)
    (t : Transcript) :
    (∃ f t', c.putJson (Route.path segments) document env t = (.error f, t') ∧
        ExtendsWithin (fun x => ∀ e, ¬ x.Created e) t t') ∨
      ∃ x, c.putJson (Route.path segments) document env t = (.ok (), x :: t) ∧ x.Created e := by
  rw [putJson_apply]
  cases sent : c.request "PUT" (Route.path segments) (.json document) with
  | error f => exact .inl ⟨f, t, rfl, refl_of _ t⟩
  | ok r =>
    have creates : r.Creates e := creates_of_request sent route named
    simp only
    cases accepted : (env.respond t r).isAccepted with
    | false =>
      obtain ⟨f, refused⟩ := Reply.outcome_of_not_isAccepted accepted
      refine .inl ⟨f, env.after t r, by rw [refused]; rfl, Transcript.extendsWithin_cons t ?_⟩
      rintro e' ⟨r', reply, same, -, carried⟩
      cases same
      rw [accepted] at carried
      cases carried
    | true =>
      obtain ⟨response, -, taken⟩ := Reply.outcome_of_isAccepted accepted
      exact .inr ⟨.exchanged r (env.respond t r), by rw [taken]; rfl, r, _, rfl, creates, accepted⟩

theorem createsNothing_execute {method : String} (other : method ≠ "PUT") (url : Url)
    (headers : List (String × String)) (body : Body) :
    CreatesNothing env (c.execute method url headers body) :=
  (c.sends_execute (fun _ _ => other) headers).createsNothing

theorem createsNothing_call {method : String} (other : method ≠ "PUT") (path : String)
    (body : Body) : CreatesNothing env (c.call method path body) :=
  .bind (leads_ofOutcome _) fun url => c.createsNothing_execute other url [] body

theorem createsNothing_get (d : Json.Decoder α) (path : String) :
    CreatesNothing env (c.get d path) :=
  .bind (c.createsNothing_call (by decide) path .empty) fun _ => leads_ofOutcome _

theorem createsNothing_getOption (d : Json.Decoder α) (path : String) :
    CreatesNothing env (c.getOption d path) :=
  leads_getOption_of_get (c.createsNothing_get d path)

theorem createsNothing_post (path : String) (body : Body) :
    CreatesNothing env (c.post path body) :=
  .bind (c.createsNothing_call (by decide) path body) fun _ => .pure _

theorem createsNothing_postJson (d : Json.Decoder α) (path : String) (document : Json) :
    CreatesNothing env (c.postJson d path document) :=
  .bind (c.createsNothing_call (by decide) path _) fun _ => leads_ofOutcome _

theorem createsNothing_delete (path : String) : CreatesNothing env (c.delete path) :=
  .bind (c.createsNothing_call (by decide) path .empty) fun _ => .pure _

/-- **Removing a namespace fails, or removes everything in it.** -/
theorem deleteNamespace_cases (env : Environment) {ns : NamespaceId}
    (name : Route.IsName ns.name) (t : Transcript) :
    (∃ f t', c.deleteNamespace ns env t = (.error f, t') ∧ ExtendsWithin Event.IsBarren t t') ∨
      ∃ x, c.deleteNamespace ns env t = (.ok (), x :: t) ∧ x.IsBarren ∧
        ∀ e, e = ns.toEntity ∨ e.isContainedIn ns = true → x.Removed e := by
  have barren : CreatesNothing env (c.deleteNamespace ns) := c.createsNothing_delete _
  have applied := c.delete_apply (Route.path ["unrecoverable", "namespaces", ns.name]) env t
  cases sent : c.request "DELETE" (Route.path ["unrecoverable", "namespaces", ns.name]) .empty with
  | error f =>
    rw [sent] at applied
    exact .inl ⟨f, t, applied, refl_of _ t⟩
  | ok r =>
    rw [sent] at applied
    cases accepted : (env.respond t r).isAccepted with
    | false =>
      obtain ⟨f, refused⟩ := Reply.outcome_of_not_isAccepted accepted
      simp only [refused, Except.map] at applied
      exact .inl ⟨f, _, applied, barren.of_run applied⟩
    | true =>
      obtain ⟨response, -, taken⟩ := Reply.outcome_of_isAccepted accepted
      simp only [taken, Except.map] at applied
      have delete : r.method = "DELETE" := (request_eq_ok sent).1
      have leads : r.LeadsTo ["unrecoverable", "namespaces", ns.name] := by
        refine leadsTo_of_request sent ?_
        simpa [name] using
          (by decide : Route.IsName "unrecoverable" ∧ Route.IsName "namespaces")
      refine .inr ⟨_, applied, Event.isBarren_of_method_ne (by simp [delete]), ?_⟩
      intro e within
      refine ⟨r, _, rfl, ⟨delete, ns.toEntity, ?_, _, rfl, leads⟩, accepted⟩
      rcases within with rfl | inside
      · exact .head _
      · simp only [EntityId.isContainedIn, Bool.and_eq_true, beq_iff_eq, EntityId.namespaceId,
          Option.map_eq_some_iff] at inside
        obtain ⟨-, n, named, rfl⟩ := inside
        rw [named]
        exact .tail _ (.head _)

theorem createsNothing_probe (path : String) : CreatesNothing env (c.probe path) :=
  .bind (leads_ofOutcome _) fun _ => .bind (leads_ofOutcome _) fun _ =>
    Session.createsNothing_send (by decide : "GET" ≠ "PUT")

/-! ### Routes of several steps -/

theorem createsNothing_datasetExists (ds : DatasetId) :
    CreatesNothing env (c.datasetExists ds) :=
  .bind (c.createsNothing_getOption _ _) fun _ => .pure _

theorem createsNothing_namespaceExists (ns : NamespaceId) :
    CreatesNothing env (c.namespaceExists ns) :=
  .bind (c.createsNothing_getOption _ _) fun _ => .pure _

theorem createsNothing_events (s : StreamId) (start stop : Int) (limit : Nat) :
    CreatesNothing env (c.events s start stop limit) :=
  .bind (c.createsNothing_get _ _) fun _ => .pure _

theorem createsNothing_callTable (base : Url) (d : Json.Decoder α) (ds : DatasetId)
    (operation : String) (document : Json) :
    CreatesNothing env (c.callTable base d ds operation document) :=
  .bind (leads_ofOutcome _) fun url =>
    .bind (c.createsNothing_execute (by decide) url [] _) fun _ => leads_ofOutcome _

theorem createsNothing_tablePut (base : Url) (ds : DatasetId) (request : TablePut) :
    CreatesNothing env (c.tablePut base ds request) :=
  .bind (c.createsNothing_callTable base _ ds "put" _) fun _ => .pure _

theorem createsNothing_addArtifact (a : ArtifactId) (parents : List String)
    (content : List UInt8) : CreatesNothing env (c.addArtifact a parents content) :=
  .bind (leads_ofOutcome _) fun url => .bind (leads_ofOutcome _) fun headers =>
    .bind (c.createsNothing_execute (by decide) url headers _) fun _ => .pure _

theorem createsNothing_waitForRun (p : ProgramId) (status : RunStatus) (w : WaitSpec) :
    CreatesNothing env (c.waitForRun p status w) :=
  leads_waitForRun_of_programRuns (Session.createsNothing_sleep env) w (c.createsNothing_get _ _)

theorem createsNothing_serviceUrl (service : ProgramId) (w : WaitSpec) :
    CreatesNothing env (c.serviceUrl service w) :=
  leads_serviceUrl_of_probe (Session.createsNothing_sleep env) w (c.createsNothing_probe _)

theorem createsNothing_login (e : Endpoint) (u : Credentials) :
    CreatesNothing env (RestClient.login e u) := by
  have fetched : CreatesNothing env (fetchToken e u) :=
    .bind (leads_ofOutcome _) fun _ =>
      .bind (Session.createsNothing_send (by decide : "GET" ≠ "PUT")) fun _ =>
        .bind (leads_ofOutcome _) fun _ => leads_ofOutcome _
  exact .bind fetched fun _ => .pure _

/-- **The properties of a dataset are no dataset**, nor anything else that is created. -/
theorem createsNothing_updateDataset (ds : DatasetId) (properties : Properties)
    (ns : Route.IsName ds.ns.name) (name : Route.IsName ds.name) :
    CreatesNothing env (c.updateDataset ds properties) := by
  intro t
  unfold updateDataset
  rw [putJson_apply]
  cases sent : c.request "PUT" (Route.dataset ds ["properties"]) (.json properties.toJson) with
  | error f => exact refl_of _ t
  | ok r =>
    have leads : r.LeadsTo
        (["namespaces", ds.ns.name, "data", "datasets", ds.name] ++ ["properties"]) := by
      refine leadsTo_of_request sent ?_
      rw [List.forall_mem_append]
      exact ⟨EntityId.isNamed_dataset ns name _ rfl, by decide⟩
    have barren : (Event.exchanged r (env.respond t r)).IsBarren := by
      rintro e ⟨r', reply, same, -, route, created, leads'⟩
      cases same
      rcases leads.suffix_or_suffix leads' with short | long
      · cases e <;> cases created <;> simp [List.suffix_cons_iff] at short
      · cases e <;> cases created <;> simp [List.suffix_cons_iff] at long
    exact Transcript.extendsWithin_cons t barren

end RestClient

namespace Pipeline

variable (c : RestClient)

theorem createsNothing_pluginsPresent (plugins : List (ArtifactId × String × String)) :
    CreatesNothing env (pluginsPresent c plugins) := by
  induction plugins with
  | nil => exact .pure true
  | cons plugin rest ih =>
    obtain ⟨parent, type, name⟩ := plugin
    refine .bind (c.createsNothing_get _ _) ?_
    intro plugins
    split
    · exact ih
    · exact .pure false

theorem createsNothing_waitForPlugins (ns : NamespaceId) (version : String) :
    CreatesNothing env (waitForPlugins c ns version) :=
  Session.leads_waitUntil (Session.createsNothing_sleep env) _ (createsNothing_pluginsPresent c _)

theorem createsNothing_readFileset (service : Url) (name : String) (start stop : Int) :
    CreatesNothing env (readFileset c service name start stop) :=
  .bind (leads_ofOutcome _) fun url =>
    .bind (c.createsNothing_execute (by decide) url [] .empty) fun _ => leads_ofOutcome _

end Pipeline

end AccessHarness
