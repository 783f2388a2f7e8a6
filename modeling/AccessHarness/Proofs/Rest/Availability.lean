import AccessHarness.Proofs.Session.Histories

/-!
# Whether a service answers

A service is waited for by asking whether it is available, again and again.  Any answer but "yes"
and "not yet" ends the wait.

* `Fault.kind_ofResponse_iff` — exactly when the kind of a fault does not depend on the body of the
  answer it is made of.
* `RestClient.waitForValue_available` — what an answer that was not expected makes of a wait.
* `RestClient.serviceUrl_kind_iff` — exactly when the fault is of the kind that the whole answer
  stands for.

### What is load-bearing

**The wait looks at the status alone** (`RestClient.available_cases`), so the fault is made without
the body.  A marker in the body is the only thing that a body adds to the kind of a fault, and it
counts only in a server error.
-/

namespace AccessHarness

namespace Fault

/-- Without a body there is no marker. -/
theorem kind_ofResponse_iff (status : Nat) (body : String) :
    (ofResponse status "").kind = (ofResponse status body).kind ↔
      ¬ (Status.isServerError status = true ∧ carriesRefusal body = true) := by
  have bare : carriesRefusal "" = false := by decide
  by_cases server : Status.isServerError status = true
  · have large : 500 ≤ status := by
      simp only [Status.isServerError, Bool.and_eq_true, decide_eq_true_eq] at server
      exact server.1
    have kind (text : String) : (ofResponse status text).kind =
        if carriesRefusal text then .authorization else .remote := by
      unfold ofResponse
      rw [if_neg (by omega), if_neg (by omega), if_neg (by omega), if_neg (by omega),
        if_neg (by omega), server, Bool.true_and, carriesRefusal_responseText server]
      split <;> rfl
    rw [kind, kind, bare]
    cases carriesRefusal body <;> simp [server]
  · refine iff_of_true ?_ fun both => server both.1
    rw [Bool.not_eq_true] at server
    unfold ofResponse
    rw [server]
    simp only [Bool.false_and, Bool.false_eq_true, if_false]
    split_ifs <;> rfl

end Fault

namespace RestClient

/-- **A probe is one exchange, or none.** -/
theorem probe_apply (c : RestClient) (path : String) (env : Environment) (t : Transcript) :
    c.probe path env t =
      match c.request "GET" path .empty with
      | .error f => (.error f, t)
      | .ok r => ((env.respond t r).received, env.after t r) := by
  unfold probe request
  rw [Program.bind_apply]
  cases c.url path with
  | error f => rfl
  | ok url =>
    simp only [Session.ofOutcome, send_apply, List.nil_append]
    cases c.authorization with
    | error f => rfl
    | ok authorization =>
      by_cases web : url.isWeb = true
      · simp only [if_pos web]
      · simp only [if_neg web]

/-- **An answer that says neither "yes" nor "not yet".** -/
def IsUnexpected (status : Nat) : Prop := status ≠ 200 ∧ status ≠ 404 ∧ status ≠ 503

instance (status : Nat) : Decidable (IsUnexpected status) :=
  inferInstanceAs (Decidable (_ ∧ _ ∧ _))

/-- What a client takes a reply to say about the availability of a service. -/
def availabilityOf : Reply → Outcome Bool
  | .answered response => availability response.status
  | _ => .error .transport

variable {c : RestClient} {service : ProgramId} {env : Environment}

/-- Asking whether a service is available. -/
def available (c : RestClient) (service : ProgramId) : Session Bool := do
  let r ← c.probe (Route.program service "available")
  Session.ofOutcome (availability r.status)

/-- **Asking is one exchange, or none, and only the status of the answer is read.** -/
theorem available_cases (c : RestClient) (service : ProgramId) (env : Environment)
    (t : Transcript) :
    (∃ f, c.available service env t = (.error f, t)) ∨
      ∃ r, c.request "GET" (Route.program service "available") .empty = .ok r ∧
        c.available service env t = (availabilityOf (env.respond t r), env.after t r) := by
  unfold available
  rw [Program.bind_apply, probe_apply]
  cases sent : c.request "GET" (Route.program service "available") .empty with
  | error f => exact .inl ⟨f, rfl⟩
  | ok r =>
    refine .inr ⟨r, rfl, ?_⟩
    simp only
    cases env.respond t r <;> rfl

/-- The fault that an unexpected answer is taken for. -/
theorem availabilityOf_of_isUnexpected {response : Response}
    (unexpected : IsUnexpected response.status) :
    availabilityOf (.answered response) = .error (Fault.ofResponse response.status "") := by
  obtain ⟨yes, missing, notYet⟩ := unexpected
  rw [availabilityOf, availability, if_neg yes, if_neg (by simp [missing, notYet])]

/-- It cannot be waited away. -/
theorem isDecisive_of_isUnexpected {accept : Bool → Bool} {status : Nat}
    (unexpected : IsUnexpected status) :
    Outcome.isDecisive accept (.error (Fault.ofResponse status "")) = true := by
  have final : (Fault.ofResponse status "").isNotFound = false :=
    Bool.eq_false_iff.2 fun again => unexpected.2.1 ((Fault.isNotFound_ofResponse status "").1 again)
  rw [Outcome.isDecisive, final, Bool.not_false]

/-- **One evaluation fails by an unexpected answer**, which is all that happens in it. -/
theorem failed_of_available (c : RestClient) (service : ProgramId) (env : Environment)
    (t : Transcript) :
    let run := c.available service env t
    ∃ during, run.2 = during ++ t ∧
      ∀ r response, .exchanged r (.answered response) ∈ during → IsUnexpected response.status →
        during = [.exchanged r (.answered response)] ∧
          run.1 = .error (Fault.ofResponse response.status "") := by
  rcases available_cases c service env t with ⟨f, silent⟩ | ⟨r, -, asked⟩
  · rw [silent]
    exact ⟨[], rfl, fun r response mem => absurd mem List.not_mem_nil⟩
  · rw [asked]
    refine ⟨[.exchanged r (env.respond t r)], rfl, ?_⟩
    intro r' response mem unexpected
    have same := List.mem_singleton.1 mem
    obtain ⟨-, reply⟩ := Event.exchanged.inj same
    rw [← same, ← reply]
    exact ⟨rfl, availabilityOf_of_isUnexpected unexpected⟩

/-- What happens as long as nothing unexpected is answered. -/
def AsExpected (x : Event) : Prop :=
  ∀ r response, x = .exchanged r (.answered response) → ¬ IsUnexpected response.status

theorem asExpected_slept (d : Nat) : AsExpected (.slept d) := by
  intro r response same
  cases same

/-- An evaluation that decides nothing was answered as expected. -/
theorem asExpected_of_undecided {accept : Bool → Bool} {t : Transcript}
    (undecided : Outcome.isDecisive accept (c.available service env t).1 = false) :
    Transcript.ExtendsWithin AsExpected t (c.available service env t).2 := by
  obtain ⟨during, later, failed⟩ := failed_of_available c service env t
  rw [later, Transcript.extendsWithin_append]
  rintro _ mem r response rfl unexpected
  rw [(failed r response mem unexpected).2, isDecisive_of_isUnexpected unexpected] at undecided
  cases undecided

/-- **An unexpected answer ends the wait**, at whichever evaluation it comes. -/
theorem waitForValue_available (c : RestClient) (service : ProgramId) (env : Environment)
    (w : WaitSpec) (accept : Bool → Bool) (shown : Bool → String) (t : Transcript) :
    let run := Session.waitForValue w (c.available service) accept shown env t
    ∃ during, run.2 = during ++ t ∧
      ∀ r response, .exchanged r (.answered response) ∈ during → IsUnexpected response.status →
        during.head? = some (.exchanged r (.answered response)) ∧
          run.1 = .error (Fault.ofResponse response.status "") := by
  let := env.timeline
  intro run
  cases valid : w.validate with
  | error f =>
    have refused : run = (.error f, t) := congrFun (WaitSpec.waitForValue_of_error valid _) t
    rw [refused]
    exact ⟨[], rfl, fun r response mem => absurd mem List.not_mem_nil⟩
  | ok _ =>
    obtain ⟨o, t', ran⟩ : ∃ o t', run = (o, t') := ⟨_, _, rfl⟩
    obtain ⟨k, elapsed, u, sofar, last⟩ := (WaitSpec.waitForValue_eq_iff valid o t').1 ran
    rw [ran]
    have before : Transcript.ExtendsWithin AsExpected t u :=
      sofar.rel _ (fun _ => asExpected_of_undecided)
        fun d t => Transcript.extendsWithin_cons t (asExpected_slept d)
    obtain ⟨earlier, rfl⟩ := before.grows
    rw [Transcript.extendsWithin_append] at before
    obtain ⟨during, later, failed⟩ := failed_of_available c service env (earlier ++ t)
    have ended : t' = (c.available service env (earlier ++ t)).2 := by
      rcases last with ⟨-, same⟩ | ⟨-, -, same⟩
      · exact (congrArg Prod.snd same).symm
      · exact (Prod.mk.inj same).2.symm
    refine ⟨during ++ earlier, by rw [ended, later, List.append_assoc], ?_⟩
    intro r response mem unexpected
    rcases List.mem_append.1 mem with mem | mem
    · obtain ⟨alone, fault⟩ := failed r response mem unexpected
      refine ⟨by rw [alone]; rfl, ?_⟩
      rcases last with ⟨-, same⟩ | ⟨undecided, -, -⟩
      · rw [← congrArg Prod.fst same]
        exact fault
      · rw [fault, isDecisive_of_isUnexpected unexpected] at undecided
        cases undecided
    · exact absurd unexpected (before _ mem r response rfl)

/-- The address of a service is resolved once the wait for it has ended. -/
theorem serviceUrl_eq (c : RestClient) (service : ProgramId) (w : WaitSpec) :
    c.serviceUrl service w = (do
      let _ ← Session.waitForValue w (c.available service) (fun v => v == true)
        (fun b => if b then "true" else "false")
      Session.ofOutcome (c.url (Route.program service "methods" ++ "/"))) := by
  funext env t
  have waited : Session.waitUntil w (c.available service) env t =
      (do
        let _ ← Session.waitForValue w (c.available service) (fun v => v == true)
          (fun b => if b then "true" else "false")
        return () : Session Unit) env t := rfl
  rw [Program.bind_apply]
  show (Session.waitUntil w (c.available service) >>= fun _ =>
    Session.ofOutcome (c.url (Route.program service "methods" ++ "/"))) env t = _
  rw [Program.bind_apply, waited, Program.bind_apply]
  rcases Session.waitForValue w (c.available service) _ _ env t with ⟨_ | _, t'⟩ <;> rfl

/-- **What an unexpected answer makes of the address of a service.**  Nothing is asked after it, and
the fault is made without its body. -/
theorem serviceUrl_of_isUnexpected {w : WaitSpec} {t : Transcript} {r : Request}
    {response : Response}
    (answered : .exchanged r (.answered response) ∈ (c.serviceUrl service w env t).2.since t)
    (unexpected : IsUnexpected response.status) :
    (c.serviceUrl service w env t).2.head? = some (.exchanged r (.answered response)) ∧
      (c.serviceUrl service w env t).1 = .error (Fault.ofResponse response.status "") := by
  rw [serviceUrl_eq, Program.bind_apply] at answered ⊢
  obtain ⟨during, later, ended⟩ := waitForValue_available c service env w (fun v => v == true)
    (fun b => if b then "true" else "false") t
  generalize Session.waitForValue w (c.available service) _ _ env t = run at answered later ended ⊢
  obtain ⟨outcome, t'⟩ := run
  -- after the wait nothing else happens
  have mem : .exchanged r (.answered response) ∈ during := by
    have told : .exchanged r (.answered response) ∈ Transcript.since t' t := by
      cases outcome with
      | error f => exact answered
      | ok available => exact answered
    simp only at later
    rwa [later, Transcript.since_append] at told
  obtain ⟨last, fault⟩ := ended r response mem unexpected
  simp only at later fault
  subst later fault
  refine ⟨?_, rfl⟩
  show (during ++ t).head? = _
  rw [List.head?_append, last]
  rfl

/-- **When a fault about the availability of a service is of the kind that the answer stands for.**
A server error whose body says that the caller was refused is the one exception. -/
theorem serviceUrl_kind_iff {w : WaitSpec} {t : Transcript} {r : Request} {response : Response}
    (answered : .exchanged r (.answered response) ∈ (c.serviceUrl service w env t).2.since t)
    (unexpected : IsUnexpected response.status) :
    ∃ f, (c.serviceUrl service w env t).1 = .error f ∧
      (c.serviceUrl service w env t).2.head? = some (.exchanged r (.answered response)) ∧
      (f.kind = (Fault.ofResponse response.status response.body).kind ↔
        ¬ (Status.isServerError response.status = true ∧
          Fault.carriesRefusal response.body = true)) := by
  obtain ⟨last, fault⟩ := serviceUrl_of_isUnexpected answered unexpected
  exact ⟨_, fault, last, Fault.kind_ofResponse_iff response.status response.body⟩

/-- A server error without a marker. -/
theorem serviceUrl_kind_iff_unmarked :
    let service : ProgramId := ⟨⟨⟨"ns1"⟩, "app"⟩, .service, "svc"⟩
    let response : Response := ⟨500, "out of memory"⟩
    let env : Environment := .replying fun _ _ => .answered response
    let run := RestClient.local.serviceUrl service (.programStartStop "svc") env []
    ∃ r, (.exchanged r (.answered response) ∈ run.2.since [] ∧ IsUnexpected response.status) ∧
      ∃ f, run.1 = .error f ∧
        f.kind = (Fault.ofResponse response.status response.body).kind := by
  intro service response env run
  let place := ["v3", "namespaces", "ns1", "apps", "app", "services", "svc", "available"]
  let r : Request :=
    ⟨"GET", { RestClient.local.base with path := .rooted (place.map String.toList) }, [], .empty⟩
  have answered : .exchanged r (.answered response) ∈ run.2.since [] := by
    decide +kernel
  have unexpected : IsUnexpected response.status := by
    decide
  obtain ⟨f, failed, -, kind⟩ := serviceUrl_kind_iff answered unexpected
  refine ⟨r, ⟨answered, unexpected⟩, f, failed, kind.2 ?_⟩
  rintro ⟨-, marked⟩
  exact absurd marked (by decide +kernel)

/-- **A denial that comes as a server error is taken for a failure of the platform.** -/
theorem serviceUrl_loses_refusal :
    let service : ProgramId := ⟨⟨⟨"ns1"⟩, "app"⟩, .service, "svc"⟩
    let response : Response := ⟨500, "UnauthorizedException: bob is not authorized"⟩
    let env : Environment := .replying fun _ _ => .answered response
    let run := RestClient.local.serviceUrl service (.programStartStop "svc") env []
    run.2.exchanges.map (·.2) = [.answered response] ∧ IsUnexpected response.status ∧
      run.1 = .error (.remote 500 "Internal Server Error") ∧
      (Fault.ofResponse response.status response.body).kind = .authorization := by
  intro service response env run
  let place := ["v3", "namespaces", "ns1", "apps", "app", "services", "svc", "available"]
  let r : Request :=
    ⟨"GET", { RestClient.local.base with path := .rooted (place.map String.toList) }, [], .empty⟩
  have answered : .exchanged r (.answered response) ∈ run.2.since [] := by
    decide +kernel
  have bare : Fault.ofResponse 500 "" = .remote 500 "Internal Server Error" := by
    decide +kernel
  refine ⟨?_, by decide, ?_, ?_⟩
  · decide +kernel
  · rw [← bare]
    exact (serviceUrl_of_isUnexpected answered (by decide)).2
  · decide +kernel

end RestClient

end AccessHarness
