import AccessHarness.Proofs.Access.Verdicts
import AccessHarness.Proofs.Wait.Course
import AccessHarness.Routes.Application
import AccessHarness.Routes.Program

/-!
# Histories

A transcript is what happened, and the environment had its part in it: every reply in it is the
one that was given to that request at that moment.

* `Environment.Continues` — one transcript goes on from another as a run in the environment does.
* `Environment.BearsOut` — the last answer of a stretch is what a fault is about.
* `Program.Accountable` — a program that goes on from where it began, and whose faults are borne
  out.

### What is load-bearing

`Continues` is the smallest preorder that has every exchange and every sleep in it, so whatever
else is preserved by both is preserved along it.

**Two kinds of fault say something about the platform**: the caller was refused, or something is
missing.  Neither is ever made up by the harness.  A program that goes on after a failure hides an
answer, and one that fails later may fail for another reason, so what bears a fault out is the
*last* answer; a program is accountable as soon as its steps are (`Accountable.bind`).  Waits are
only looked at for where they lead (`Session.leads_waitForValue`).
-/

namespace AccessHarness

namespace Environment

/-- **What may have happened since `t`.** -/
inductive Continues (env : Environment) (t : Transcript) : Transcript → Prop
  | refl : Continues env t t
  | exchanged {u : Transcript} (r : Request) (before : Continues env t u) :
      Continues env t (env.after u r)
  | slept {u : Transcript} (d : Nat) (before : Continues env t u) :
      Continues env t (.slept d :: u)

variable {env : Environment}

theorem Continues.trans {t t₁ t₂ : Transcript} (h : env.Continues t t₁)
    (h' : env.Continues t₁ t₂) : env.Continues t t₂ := by
  induction h' with
  | refl => exact h
  | exchanged r _ ih => exact .exchanged r ih
  | slept d _ ih => exact .slept d ih

/-- Nothing of what happened is taken back. -/
theorem Continues.suffix {t t' : Transcript} (h : env.Continues t t') : t <:+ t' := by
  induction h with
  | refl => exact List.suffix_refl t
  | exchanged r _ ih => exact ih.trans (List.suffix_cons _ _)
  | slept d _ ih => exact ih.trans (List.suffix_cons _ _)

instance : IsPreorder Transcript env.Continues where
  refl _ := .refl
  trans _ _ _ := .trans

/-- **The last answer is what the fault is about**, if the fault says anything about the
platform. -/
def BearsOut (env : Environment) (f : Fault) (t t' : Transcript) : Prop :=
  f.isAuthorization = true ∨ f.isNotFound = true →
    ∃ u r, env.Continues t u ∧ t' = env.after u r ∧
      f.isAuthorization = (env.respond u r).isRefusal ∧
      f.isNotFound = (env.respond u r).isMissing

end Environment

/-- A fault that says nothing about the platform. -/
def Fault.IsMute (f : Fault) : Prop := f.isAuthorization = false ∧ f.isNotFound = false

theorem Fault.IsMute.bearsOut {env : Environment} {f : Fault} (mute : f.IsMute)
    (t t' : Transcript) : env.BearsOut f t t' := by
  rintro (authorization | missing)
  · rw [mute.1] at authorization
    cases authorization
  · rw [mute.2] at missing
    cases missing

open Program (Leads)

namespace Program

variable {σ α β : Type} {view : σ → Transcript} {env : Environment}

/-- **A program that goes on from where it began, and whose faults are borne out**, seen through
the transcript of its state. -/
structure Accountable (view : σ → Transcript) (env : Environment) (m : Program σ α) : Prop where
  onward : Leads (InvImage env.Continues view) env m
  borneOut : ∀ s f, (m env s).1 = .error f → env.BearsOut f (view s) (view (m env s).2)

namespace Accountable

theorem pure (a : α) : Accountable view env (Pure.pure a : Program σ α) where
  onward := .pure a
  borneOut s f failed := by cases failed

/-- A fault of a later step is borne out from the beginning. -/
theorem bind {m : Program σ α} {k : α → Program σ β} (hm : Accountable view env m)
    (hk : ∀ a, Accountable view env (k a)) : Accountable view env (m >>= k) where
  onward := .bind hm.onward fun a => (hk a).onward
  borneOut s f failed := by
    rw [bind_apply] at failed ⊢
    have first := hm.borneOut s
    have before : env.Continues (view s) (view (m env s).2) := hm.onward s
    rcases run : m env s with ⟨f' | a, s'⟩ <;> rw [run] at first before failed
    · cases failed
      exact first f rfl
    · intro speaks
      obtain ⟨u, r, later, last, kinds⟩ := (hk a).borneOut s' f failed speaks
      exact ⟨u, r, before.trans later, last, kinds⟩

end Accountable

end Program

open Program (Accountable)

variable {env : Environment} {α : Type}

/-! ### Sessions -/

namespace Session

theorem accountable_ofOutcome {o : Outcome α} (mute : ∀ f, o = .error f → f.IsMute) :
    Accountable id env (ofOutcome o) where
  onward := leads_ofOutcome o
  borneOut _ f failed := (mute f failed).bearsOut _ _

theorem leads_send (r : Request) : Leads env.Continues env (send r) := by
  intro t
  unfold send
  by_cases web : r.url.isWeb = true
  · rw [if_pos web]
    have exchanged : env.Continues t (env.after t r) := .exchanged r .refl
    unfold Environment.after at exchanged
    cases reply : env.respond t r <;> rw [reply] at exchanged <;> exact exchanged
  · rw [if_neg web]
    exact .refl

theorem accountable_sleep (d : Nat) : Accountable id env (sleep d) where
  onward _ := .slept d .refl
  borneOut _ f failed := by cases failed

/-- A file that cannot be read says nothing about the platform. -/
theorem accountable_fileContent (path : String) :
    Accountable id env (fileContent path) where
  onward t := by
    unfold fileContent
    cases env.files.content path <;> exact .refl
  borneOut t f failed := by
    refine Fault.IsMute.bearsOut ?_ _ _
    unfold fileContent at failed
    split at failed <;> cases failed
    exact ⟨rfl, rfl⟩

/-- To keep an outcome changes nothing about where a session leads. -/
theorem leads_attempt {R : Transcript → Transcript → Prop} {m : Session α} (h : Leads R env m) :
    Leads R env (attempt m) := fun t => h t

theorem leads_sleep (d : Nat) : Leads env.Continues env (sleep d) := fun _ => .slept d .refl

section

variable {R : Transcript → Transcript → Prop} [IsPreorder Transcript R]
  (slept : ∀ d, Leads R env (sleep d)) (w : WaitSpec)

include slept

theorem leads_waitForValue {operation : Session α} (accept : α → Bool) (shown : α → String)
    (h : Leads R env operation) : Leads R env (waitForValue w operation accept shown) :=
  let := env.timeline
  WaitSpec.rel_waitForValue R h slept

theorem leads_waitUntil {operation : Session Bool} (h : Leads R env operation) :
    Leads R env (waitUntil w operation) := by
  let shown (b : Bool) := if b then "true" else "false"
  have whole : Leads R env (do
      let _ ← waitForValue w operation (fun v => v == true) shown
      return ()) :=
    .bind (leads_waitForValue slept w _ shown h) fun _ => .pure ()
  exact whole

end

end Session

/-! ### Operations that repeat one request -/

namespace RestClient

variable {c : RestClient} {R : Transcript → Transcript → Prop} [IsPreorder Transcript R]

/-- That something is missing is a value, every other fault is handed on. -/
theorem leads_getOption_of_get {d : Json.Decoder α} {path : String}
    (h : Leads R env (c.get d path)) : Leads R env (c.getOption d path) := by
  refine .bind (Session.leads_attempt h) ?_
  rintro (f | v)
  · show Leads R env (if f.isNotFound then _ else _)
    split
    · exact .pure _
    · exact .throw f
  · exact .pure _

section

variable (slept : ∀ d, Leads R env (Session.sleep d)) {p : ProgramId} (w : WaitSpec)

include slept

theorem leads_waitForRun_of_programRuns {status : RunStatus}
    (h : Leads R env (c.programRuns p (some status))) :
    Leads R env (c.waitForRun p status w) := by
  refine .bind (Session.leads_waitForValue slept w _ _ h) ?_
  rintro (_ | ⟨r, rest⟩)
  · exact .throw _
  · exact .pure r

theorem leads_waitForRuns_of_programRuns {status : RunStatus} (count : Nat)
    (h : Leads R env (c.programRuns p (some status))) :
    Leads R env (c.waitForRuns p status count w) :=
  Session.leads_waitForValue slept w _ _ h

theorem leads_serviceUrl_of_probe (h : Leads R env (c.probe (Route.program p "available"))) :
    Leads R env (c.serviceUrl p w) :=
  .bind (Session.leads_waitUntil slept w (.bind h fun _ => Session.leads_ofOutcome _))
    fun _ => Session.leads_ofOutcome _

end

end RestClient

/-! ### Faults that are made without an answer -/

theorem isMute_of_resolveBelow {base : Url} {path : String} {f : Fault}
    (h : resolveBelow base path = .error f) : f.IsMute := by
  unfold resolveBelow at h
  split at h <;> cases h
  exact ⟨rfl, rfl⟩

theorem isMute_of_resolveService {base : Url} {relative : String} {f : Fault}
    (h : resolveService base relative = .error f) : f.IsMute := by
  unfold resolveService at h
  split at h <;> cases h
  exact ⟨rfl, rfl⟩

theorem isMute_of_decodeBody {d : Json.Decoder α} {body : String} {f : Fault}
    (h : decodeBody d body = .error f) : f.IsMute := by
  unfold decodeBody at h
  simp only at h
  split at h <;> cases h
  exact ⟨rfl, rfl⟩

theorem Header.isMute_of_fields {fields : List (String × String)} {f : Fault}
    (h : Header.fields fields = .error f) : f.IsMute := by
  induction fields with
  | nil => cases h
  | cons field rest ih =>
    obtain ⟨name, value⟩ := field
    unfold Header.fields at h
    split at h
    · cases others : Header.fields rest with
      | ok sent =>
        rw [others] at h
        cases h
      | error f' =>
        rw [others] at h
        cases h
        exact ih others
    · cases h
      exact ⟨rfl, rfl⟩

/-! ### Clients -/

namespace RestClient

variable (c : RestClient)

theorem isMute_of_authorization {f : Fault} (h : c.authorization = .error f) : f.IsMute := by
  unfold authorization at h
  split at h
  · cases h
  · split at h <;> cases h
    exact ⟨rfl, rfl⟩

/-- A request that is not sent says nothing about the platform. -/
theorem isMute_of_request {method path : String} {body : Body} {f : Fault}
    (h : c.request method path body = .error f) : f.IsMute := by
  unfold request at h
  split at h
  · rename_i unresolved
    cases h
    exact isMute_of_resolveBelow unresolved
  · rename_i unauthorized
    cases h
    exact c.isMute_of_authorization unauthorized
  · split at h <;> cases h
    exact ⟨rfl, rfl⟩

/-- **A request that is sent is answered, and what is made of the answer is borne out.** -/
theorem accountable_execute (method : String) (url : Url) (headers : List (String × String))
    (body : Body) : Accountable id env (c.execute method url headers body) where
  onward := .bind (.bind (Session.leads_ofOutcome _) fun _ => Session.leads_send _) fun _ =>
    Session.leads_ofOutcome _
  borneOut t f failed := by
    rw [execute_apply] at failed ⊢
    cases authorized : c.authorization with
    | error f' =>
      rw [authorized] at failed
      cases failed
      exact (c.isMute_of_authorization authorized).bearsOut _ _
    | ok authorization =>
      rw [authorized] at failed
      simp only at failed ⊢
      split at failed
      · rename_i web
        rw [if_pos web]
        intro _
        exact ⟨t, _, .refl, rfl, Reply.fault_of_outcome failed⟩
      · cases failed
        exact Fault.IsMute.bearsOut ⟨rfl, rfl⟩ _ _

theorem accountable_call (method path : String) (body : Body) :
    Accountable id env (c.call method path body) :=
  .bind (Session.accountable_ofOutcome fun _ => isMute_of_resolveBelow) fun url =>
    c.accountable_execute method url [] body

theorem accountable_get (d : Json.Decoder α) (path : String) :
    Accountable id env (c.get d path) :=
  .bind (c.accountable_call "GET" path .empty) fun _ =>
    Session.accountable_ofOutcome fun _ => isMute_of_decodeBody

/-- That something is missing is a value here, every other fault is that of the answer. -/
theorem accountable_getOption (d : Json.Decoder α) (path : String) :
    Accountable id env (c.getOption d path) := by
  have got : Accountable id env (c.get d path) := c.accountable_get d path
  refine ⟨leads_getOption_of_get got.onward, ?_⟩
  intro t f failed
  have asked := got.borneOut t
  unfold getOption at failed ⊢
  rw [Program.bind_apply] at failed ⊢
  unfold Session.attempt at failed ⊢
  rcases run : c.get d path env t with ⟨f' | v, t'⟩ <;> rw [run] at failed asked
  · simp only at failed ⊢
    split at failed
    · cases failed
    · rename_i present
      rw [if_neg present]
      cases failed
      exact asked f rfl
  · cases failed

theorem accountable_putJson (path : String) (document : Json) :
    Accountable id env (c.putJson path document) :=
  .bind (c.accountable_call "PUT" path _) fun _ => .pure _

theorem accountable_postJson (d : Json.Decoder α) (path : String) (document : Json) :
    Accountable id env (c.postJson d path document) :=
  .bind (c.accountable_call "POST" path _) fun _ =>
    Session.accountable_ofOutcome fun _ => isMute_of_decodeBody

theorem accountable_post (path : String) (body : Body) :
    Accountable id env (c.post path body) :=
  .bind (c.accountable_call "POST" path body) fun _ => .pure _

theorem accountable_delete (path : String) : Accountable id env (c.delete path) :=
  .bind (c.accountable_call "DELETE" path .empty) fun _ => .pure _

/-! ### Routes of several steps -/

theorem accountable_datasetExists (ds : DatasetId) : Accountable id env (c.datasetExists ds) :=
  .bind (c.accountable_getOption _ _) fun _ => .pure _

theorem accountable_namespaceExists (ns : NamespaceId) :
    Accountable id env (c.namespaceExists ns) :=
  .bind (c.accountable_getOption _ _) fun _ => .pure _

theorem accountable_events (s : StreamId) (start stop : Int) (limit : Nat) :
    Accountable id env (c.events s start stop limit) :=
  .bind (c.accountable_get _ _) fun _ => .pure _

theorem accountable_callTable (base : Url) (d : Json.Decoder α) (ds : DatasetId)
    (operation : String) (document : Json) :
    Accountable id env (c.callTable base d ds operation document) :=
  .bind (Session.accountable_ofOutcome fun _ => isMute_of_resolveService) fun url =>
    .bind (c.accountable_execute "POST" url [] _) fun _ =>
      Session.accountable_ofOutcome fun _ => isMute_of_decodeBody

theorem accountable_tablePut (base : Url) (ds : DatasetId) (request : TablePut) :
    Accountable id env (c.tablePut base ds request) :=
  .bind (c.accountable_callTable base _ ds "put" _) fun _ => .pure _

theorem accountable_addArtifact (a : ArtifactId) (parents : List String)
    (content : List UInt8) : Accountable id env (c.addArtifact a parents content) :=
  .bind (Session.accountable_ofOutcome fun _ => isMute_of_resolveBelow) fun url =>
    .bind (Session.accountable_ofOutcome fun _ => Header.isMute_of_fields) fun headers =>
      .bind (c.accountable_execute "POST" url headers _) fun _ => .pure _

theorem leads_waitForRun (p : ProgramId) (status : RunStatus) (w : WaitSpec) :
    Leads env.Continues env (c.waitForRun p status w) :=
  leads_waitForRun_of_programRuns Session.leads_sleep w (c.accountable_get _ _).onward

theorem leads_waitForRuns (p : ProgramId) (status : RunStatus) (count : Nat) (w : WaitSpec) :
    Leads env.Continues env (c.waitForRuns p status count w) :=
  leads_waitForRuns_of_programRuns Session.leads_sleep w count (c.accountable_get _ _).onward

theorem leads_serviceUrl (service : ProgramId) (w : WaitSpec) :
    Leads env.Continues env (c.serviceUrl service w) := by
  have asked : Leads env.Continues env (c.probe (Route.program service "available")) :=
    .bind (Session.leads_ofOutcome _) fun _ => .bind (Session.leads_ofOutcome _) fun _ =>
      Session.leads_send _
  exact leads_serviceUrl_of_probe Session.leads_sleep w asked

/-- Logging in asks for a token. -/
theorem leads_login (e : Endpoint) (u : Credentials) :
    Leads env.Continues env (RestClient.login e u) := by
  have fetched : Leads env.Continues env (fetchToken e u) :=
    .bind (Session.leads_ofOutcome _) fun _ => .bind (Session.leads_send _) fun _ =>
      .bind (Session.leads_ofOutcome _) fun _ => Session.leads_ofOutcome _
  exact .bind fetched fun _ => .pure _

end RestClient

end AccessHarness
