import AccessHarness.Proofs.Session.Programs
import AccessHarness.Proofs.Url.Routes

/-!
# What a client sends

A call of a client is at most one exchange.  `RestClient.request` is the request of a call, or
the fault that keeps it from being sent, and `RestClient.call_apply` is the call: nothing of it
depends on anything but that request and the reply.

`RestClient.CanSend` is the condition under which a client sends at all.  It does not mention
the route (`request_route_iff`): a client that got one request through to the platform can send
any other as well.
-/

namespace AccessHarness

namespace Reply

/-- Whether a reply says that the request was carried out. -/
def isAccepted : Reply → Bool
  | .answered r => Status.isSuccess r.status
  | _ => false

/-- What a client makes of a reply. -/
def outcome : Reply → Outcome Response
  | .answered r => RestClient.requireSuccess r
  | _ => .error .transport

/-- What is read of an answer. -/
def read {α : Type} (d : Json.Decoder α) (reply : Reply) : Outcome α :=
  reply.outcome.bind fun r => decodeBody d r.body

/-- What a client that takes any answer makes of a reply. -/
def received : Reply → Outcome Response
  | .answered r => .ok r
  | _ => .error .transport

theorem outcome_of_isAccepted {reply : Reply} (h : reply.isAccepted = true) :
    ∃ r, reply = .answered r ∧ reply.outcome = .ok r := by
  cases reply with
  | answered r =>
    have success : Status.isSuccess r.status = true := h
    exact ⟨r, rfl, by simp [outcome, RestClient.requireSuccess, success]⟩
  | unreachable => cases h
  | dropped => cases h

theorem outcome_of_not_isAccepted {reply : Reply} (h : reply.isAccepted = false) :
    ∃ f, reply.outcome = .error f := by
  cases reply with
  | answered r =>
    have failure : Status.isSuccess r.status = false := h
    exact ⟨.ofResponse r.status r.body, by simp [outcome, RestClient.requireSuccess, failure]⟩
  | unreachable => exact ⟨_, rfl⟩
  | dropped => exact ⟨_, rfl⟩

end Reply

/-- What happened after one more exchange. -/
def Environment.after (env : Environment) (t : Transcript) (r : Request) : Transcript :=
  .exchanged r (env.respond t r) :: t

/-- A platform by itself: there are no files, and nothing takes time. -/
def Environment.replying (respond : Transcript → Request → Reply) : Environment :=
  ⟨respond, .empty, "", 0, fun _ _ => 0⟩

namespace RestClient

/-- **The request of a call**, or the fault that keeps it from being sent. -/
def request (c : RestClient) (method path : String) (body : Body) : Outcome Request :=
  match c.url path, c.authorization with
  | .error f, _ => .error f
  | .ok _, .error f => .error f
  | .ok url, .ok authorization =>
    if url.isWeb then .ok ⟨method, url, authorization ++ contentType body, body⟩
    else .error .transport

/-- **Sending a request is one exchange, or none.** -/
theorem send_apply (c : RestClient) (method : String) (url : Url)
    (headers : List (String × String)) (body : Body) (env : Environment) (t : Transcript) :
    c.send method url headers body env t =
      match c.authorization with
      | .error f => (.error f, t)
      | .ok authorization =>
        if url.isWeb then
          let r : Request := ⟨method, url, headers ++ authorization ++ contentType body, body⟩
          ((env.respond t r).received, env.after t r)
        else (.error .transport, t) := by
  unfold send
  rw [Program.bind_apply]
  cases c.authorization with
  | error f => rfl
  | ok authorization =>
    simp only [Session.ofOutcome, Session.send]
    by_cases web : url.isWeb = true
    · simp only [web, if_true, Environment.after]
      cases env.respond t ⟨method, url, headers ++ authorization ++ contentType body, body⟩ <;> rfl
    · rw [if_neg web, if_neg web]

/-- **Executing a request is one exchange, or none.** -/
theorem execute_apply (c : RestClient) (method : String) (url : Url)
    (headers : List (String × String)) (body : Body) (env : Environment) (t : Transcript) :
    c.execute method url headers body env t =
      match c.authorization with
      | .error f => (.error f, t)
      | .ok authorization =>
        if url.isWeb then
          let r : Request := ⟨method, url, headers ++ authorization ++ contentType body, body⟩
          ((env.respond t r).outcome, env.after t r)
        else (.error .transport, t) := by
  unfold execute
  rw [Program.bind_apply, send_apply]
  cases c.authorization with
  | error f => rfl
  | ok authorization =>
    by_cases web : url.isWeb = true
    · simp only [web, if_true]
      cases env.respond t ⟨method, url, headers ++ authorization ++ contentType body, body⟩ <;> rfl
    · simp only [if_neg web]

/-- **A call is one exchange, or none.** -/
theorem call_apply (c : RestClient) (method path : String) (body : Body) (env : Environment)
    (t : Transcript) :
    c.call method path body env t =
      match c.request method path body with
      | .error f => (.error f, t)
      | .ok r => ((env.respond t r).outcome, env.after t r) := by
  unfold call request
  rw [Program.bind_apply]
  -- the order of the faults: first the URL, then the token, then the scheme
  cases c.url path with
  | error f => rfl
  | ok url =>
    simp only [Session.ofOutcome]
    rw [execute_apply]
    cases c.authorization with
    | error f => rfl
    | ok authorization =>
      by_cases web : url.isWeb = true
      · simp only [web, if_true, List.nil_append]
      · simp only [web, if_false, Bool.false_eq_true]

/-- Nothing is read of the answer to a deletion. -/
theorem delete_apply (c : RestClient) (path : String) (env : Environment) (t : Transcript) :
    c.delete path env t =
      match c.request "DELETE" path .empty with
      | .error f => (.error f, t)
      | .ok r => ((env.respond t r).outcome.map fun _ => (), env.after t r) := by
  unfold delete
  rw [Program.bind_apply, call_apply]
  cases c.request "DELETE" path .empty with
  | error f => rfl
  | ok r =>
    simp only
    cases (env.respond t r).outcome <;> rfl

/-- Nothing is read of the answer to what is posted. -/
theorem post_apply (c : RestClient) (path : String) (body : Body) (env : Environment)
    (t : Transcript) :
    c.post path body env t =
      match c.request "POST" path body with
      | .error f => (.error f, t)
      | .ok r => ((env.respond t r).outcome.map fun _ => (), env.after t r) := by
  unfold post
  rw [Program.bind_apply, call_apply]
  cases c.request "POST" path body with
  | error f => rfl
  | ok r =>
    simp only
    cases (env.respond t r).outcome <;> rfl

/-- **Posting a document is one exchange, or none.** -/
theorem postJson_apply (c : RestClient) {α : Type} (d : Json.Decoder α) (path : String)
    (document : Json) (env : Environment) (t : Transcript) :
    c.postJson d path document env t =
      match c.request "POST" path (.json document) with
      | .error f => (.error f, t)
      | .ok r => ((env.respond t r).read d, env.after t r) := by
  unfold postJson
  rw [Program.bind_apply, call_apply]
  cases c.request "POST" path (.json document) with
  | error f => rfl
  | ok r =>
    unfold Reply.read
    simp only
    cases (env.respond t r).outcome <;> rfl

/-- **Whether a client can send requests at all**: its base is a web address that paths can
be resolved against, and its token can stand in a header. -/
def CanSend (c : RestClient) : Prop :=
  c.base.isWeb = true ∧ (∃ l, c.base.path = .rooted l) ∧
    ∀ token, c.token = some token → Header.isValue token = true

theorem authorization_eq_ok_iff (c : RestClient) :
    (∃ h, c.authorization = .ok h) ↔
      ∀ token, c.token = some token → Header.isValue token = true := by
  unfold authorization
  cases c.token with
  | none => simp
  | some token => by_cases valid : Header.isValue token = true <;> simp [valid]

/-- What is sent: the method and the body of the call, to the URL it was resolved to. -/
theorem request_eq_ok {c : RestClient} {method path : String} {body : Body} {r : Request}
    (h : c.request method path body = .ok r) :
    r.method = method ∧ r.body = body ∧ c.url path = .ok r.url ∧ r.url.isWeb = true ∧
      ∃ authorization, c.authorization = .ok authorization := by
  unfold request at h
  split at h
  · cases h
  · cases h
  · rename_i url authorization resolved authorized
    split at h
    · rename_i web
      cases h
      exact ⟨rfl, rfl, resolved, web, authorization, authorized⟩
    · cases h

theorem url_eq_ok_iff {c : RestClient} {path : String} {u : Url} :
    c.url path = .ok u ↔ c.base.joinBelow? path = .ok u := by
  unfold url resolveBelow
  cases c.base.joinBelow? path <;> simp

/-- **Whether a call is sent does not depend on its route.** -/
theorem request_route_iff (c : RestClient) (method : String) (segments : List String)
    (body : Body) : (∃ r, c.request method (Route.path segments) body = .ok r) ↔ c.CanSend := by
  unfold CanSend
  rw [← authorization_eq_ok_iff]
  constructor
  · rintro ⟨r, sent⟩
    obtain ⟨-, -, resolved, web, authorized⟩ := request_eq_ok sent
    have ⟨baseWeb, rooted⟩ := Url.isWeb_of_joinBelow?_route (url_eq_ok_iff.1 resolved) web
    exact ⟨baseWeb, rooted, authorized⟩
  · rintro ⟨web, ⟨l, rooted⟩, authorization, authorized⟩
    -- the scheme decides, and the result has that of the base
    obtain ⟨u, resolved, webToo⟩ :
        ∃ u, c.url (Route.path segments) = .ok u ∧ u.isWeb = c.base.isWeb :=
      ⟨_, url_eq_ok_iff.2 (Url.joinBelow?_route web rooted segments), rfl⟩
    refine ⟨⟨method, u, authorization ++ contentType body, body⟩, ?_⟩
    unfold request
    rw [resolved, authorized]
    exact if_pos (webToo.trans web)

/-- **What is posted to a route** is not sent, or declined, or taken. -/
theorem post_cases (c : RestClient) (segments : List String) (body : Body) (env : Environment)
    (t : Transcript) :
    (∃ f, c.post (Route.path segments) body env t = (.error f, t) ∧ ¬ c.CanSend) ∨
      ∃ r, c.request "POST" (Route.path segments) body = .ok r ∧
        ((∃ f, c.post (Route.path segments) body env t = (.error f, env.after t r) ∧
            (env.respond t r).isAccepted = false) ∨
          (c.post (Route.path segments) body env t = (.ok (), env.after t r) ∧
            (env.respond t r).isAccepted = true)) := by
  rw [post_apply]
  cases sent : c.request "POST" (Route.path segments) body with
  | error f =>
    refine .inl ⟨f, rfl, ?_⟩
    rw [← c.request_route_iff "POST" segments body, sent]
    exact fun ⟨_, impossible⟩ => nomatch impossible
  | ok r =>
    refine .inr ⟨r, rfl, ?_⟩
    simp only
    cases accepted : (env.respond t r).isAccepted with
    | false =>
      obtain ⟨f, refused⟩ := Reply.outcome_of_not_isAccepted accepted
      rw [refused]
      exact .inl ⟨f, rfl, rfl⟩
    | true =>
      obtain ⟨response, -, taken⟩ := Reply.outcome_of_isAccepted accepted
      rw [taken]
      exact .inr ⟨rfl, rfl⟩

/-- The segments that a sent route ends in are those of the directory of the base, and its
own. -/
theorem path_of_request_route {c : RestClient} {method : String} {segments : List String}
    {body : Body} {r : Request} (h : c.request method (Route.path segments) body = .ok r) :
    r.url.path = .rooted
      (Path.walk c.base.directory.reverse (['v', '3'] :: segments.map Route.encoded)) := by
  obtain ⟨-, -, resolved, web, -⟩ := request_eq_ok h
  rw [url_eq_ok_iff] at resolved
  obtain ⟨baseWeb, l, rooted⟩ := Url.isWeb_of_joinBelow?_route resolved web
  rw [Url.joinBelow?_route baseWeb rooted, Except.ok.injEq] at resolved
  rw [← resolved]

end RestClient

end AccessHarness
