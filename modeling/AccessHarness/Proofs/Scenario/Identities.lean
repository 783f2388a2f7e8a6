import AccessHarness.Proofs.Rest.Tokens
import AccessHarness.Proofs.Scenario.Calls
import AccessHarness.Proofs.Scenario.Histories

/-!
# Whose client it is

A context hands out clients: the administrator's is at hand, and anyone else's is made of a token
that the user's credentials are exchanged for.

* `Context.Asks`, `Context.Issues` — an exchange of a user's credentials, and the client it issued.
* `Context.clientFor_apply` — everything that handing out a client comes to.
* `Context.Identified` — clients, and the exchanges they come from.
* `Context.identified_clientFor` — handing out one more client keeps them in line.
* `Context.clientFor_authentic` — all clients of a run, and what their requests present.

### What is load-bearing

**An exchange is nobody else's.**  What is stored for a user is told by the exchanges that the
user's credentials were sent for (`Identified.known`), and credentials are not shared
(`Settings.header_inj`): one more exchange changes what is known of one user only.
-/

namespace AccessHarness

open Program (Leads)

namespace Context

variable (c : Context)

/-- The request that exchanges the credentials of a user. -/
def tokenRequest (user : String) : Outcome Request :=
  c.settings.endpoint.tokenRequest (c.settings.credentialsFor user)

/-- **The credentials of a user were sent**, and nothing else. -/
def Asks (user : String) (x : Event) : Prop :=
  ∃ r reply, x = .exchanged r reply ∧ c.tokenRequest user = .ok r

/-- **A token was issued to a user**: it is the answer to the credentials of that user. -/
def Issues (user token : String) (x : Event) : Prop :=
  ∃ r reply a, x = .exchanged r reply ∧ c.tokenRequest user = .ok r ∧ reply.token = .ok a ∧
    a.token = token

/-- The client that presents a token. -/
def clientWith (token : String) : RestClient := .ofToken c.settings.endpoint (some token)

variable {c} {user user' token token' : String} {x : Event}

theorem Issues.asks (h : c.Issues user token x) : c.Asks user x := by
  obtain ⟨r, reply, a, same, asked, -, -⟩ := h
  exact ⟨r, reply, same, asked⟩

/-- One answer holds one token. -/
theorem Issues.eq (h : c.Issues user token x) (h' : c.Issues user' token' x) : token = token' := by
  obtain ⟨r, reply, a, rfl, -, answer, rfl⟩ := h
  obtain ⟨r', reply', a', same, -, answer', rfl⟩ := h'
  cases same
  rw [answer, Except.ok.injEq] at answer'
  rw [answer']

/-- **Credentials are sent for one user.** -/
theorem Asks.eq (h : c.Asks user x) (h' : c.Asks user' x) (other : user ≠ c.settings.adminUser)
    (other' : user' ≠ c.settings.adminUser) : user = user' := by
  obtain ⟨r, reply, rfl, asked⟩ := h
  obtain ⟨r', reply', same, asked'⟩ := h'
  cases same
  exact Settings.header_inj other other' (Endpoint.header_of_tokenRequest asked asked')

variable (c)

/-! ### One call -/

/-- **Handing out a client**: the one that is known, or one made of a token that is asked for. -/
theorem clientFor_apply (user : String) (env : Environment) (s : ContextState) :
    c.clientFor user env s =
      match c.clientOf s user with
      | some client => (.ok client, s)
      | none =>
        match c.tokenRequest user with
        | .error f => (.error f, s)
        | .ok r =>
          let met : ContextState :=
            { s with access := { s.access with transcript := env.after s.transcript r } }
          match (env.respond s.transcript r).token with
          | .error f => (.error f, met)
          | .ok a =>
            let client := c.clientWith a.token
            (.ok client, { met with clients := s.clients.insert user client }) := by
  unfold clientFor clientOf tokenRequest
  split
  · rfl
  · simp only [Program.bind_apply, ContextAct.state_apply]
    cases s.clients.find? user with
    | some client => rfl
    | none =>
      simp only [Program.bind_apply, ContextAct.liftM_session_apply, RestClient.login_apply]
      cases c.settings.endpoint.tokenRequest (c.settings.credentialsFor user) with
      | error f => rfl
      | ok r =>
        simp only
        cases (env.respond s.access.transcript r).token with
        | error f => rfl
        | ok a => rfl

/-! ### Runs -/

/-- **Clients and the exchanges they come from**, since a context was opened. -/
structure Identified (t : Transcript) (s : ContextState) : Prop where
  grows : t <:+ s.transcript
  /-- Only credentials were sent, and not the administrator's. -/
  asked : ∀ x ∈ s.transcript.since t, ∃ user, user ≠ c.settings.adminUser ∧ c.Asks user x
  /-- Nobody was issued a second token. -/
  once : ∀ user, user ≠ c.settings.adminUser → (s.transcript.since t).Pairwise fun x y =>
    ¬ ((∃ token, c.Issues user token x) ∧ ∃ token, c.Issues user token y)
  /-- Stored is the client with the token that was issued. -/
  known : ∀ {user}, user ≠ c.settings.adminUser → ∀ {client}, s.clients.find? user = some client ↔
    ∃ token, client = c.clientWith token ∧ ∃ x ∈ s.transcript.since t, c.Issues user token x

theorem identified_start (t : Transcript) : c.Identified t (.start t) := by
  have nothing : (ContextState.start t).transcript.since t = [] := Transcript.since_self t
  refine ⟨List.suffix_refl t, ?_, ?_, ?_⟩
  · rw [nothing]
    exact List.forall_mem_nil _
  · intro user other
    rw [nothing]
    exact .nil
  · intro user other client
    rw [nothing]
    exact iff_of_false nofun fun ⟨_, _, x, mem, _⟩ => List.not_mem_nil mem

variable {c} {t : Transcript} {s s' : ContextState}

/-- **One more exchange**, for a user of whom nothing is known: what it issues is stored. -/
theorem Identified.step (h : c.Identified t s) (other : user ≠ c.settings.adminUser)
    (recorded : s'.transcript = x :: s.transcript) (asks : c.Asks user x)
    (unknown : s.clients.find? user = none)
    (stored : ∀ client, s'.clients.find? user = some client ↔
      ∃ token, client = c.clientWith token ∧ c.Issues user token x)
    (apart : ∀ user', user' ≠ user → s'.clients.find? user' = s.clients.find? user') :
    c.Identified t s' := by
  have since : s'.transcript.since t = x :: s.transcript.since t := by
    have later : s.transcript <:+ s'.transcript := recorded ▸ List.suffix_cons x _
    rw [Transcript.since_trans h.grows later, recorded, Transcript.since_cons]
    rfl
  have unissued (y : Event) (mem : y ∈ s.transcript.since t) (token : String) :
      ¬ c.Issues user token y := by
    intro issued
    have found := (h.known other).2 ⟨token, rfl, y, mem, issued⟩
    rw [unknown] at found
    cases found
  refine ⟨?_, ?_, ?_, ?_⟩
  · rw [recorded]
    exact h.grows.trans (List.suffix_cons x _)
  · rw [since, List.forall_mem_cons]
    exact ⟨⟨user, other, asks⟩, h.asked⟩
  · intro user' other'
    rw [since, List.pairwise_cons]
    refine ⟨?_, h.once user' other'⟩
    rintro y mem ⟨⟨token, issued⟩, token', earlier⟩
    obtain rfl := issued.asks.eq asks other' other
    exact unissued y mem token' earlier
  · intro user' other' client
    simp only [since, List.exists_mem_cons_iff]
    by_cases same : user' = user
    · subst same
      rw [stored]
      refine exists_congr fun token => and_congr_right fun _ => ?_
      exact (or_iff_left fun ⟨y, mem, issued⟩ => unissued y mem token issued).symm
    · rw [apart user' same, h.known other']
      refine exists_congr fun token => and_congr_right fun _ => ?_
      exact (or_iff_right fun issued => same (issued.asks.eq asks other' other)).symm

/-- **Handing out a client keeps clients and exchanges in line.** -/
theorem identified_clientFor (h : c.Identified t s) (user : String) (env : Environment) :
    c.Identified t (c.clientFor user env s).2 := by
  rw [clientFor_apply]
  cases known : c.clientOf s user with
  | some client => exact h
  | none =>
    have other : user ≠ c.settings.adminUser := by
      rintro rfl
      rw [clientOf, if_pos rfl] at known
      cases known
    have unknown : s.clients.find? user = none := by
      rwa [clientOf, if_neg other] at known
    cases asked : c.tokenRequest user with
    | error f => exact h
    | ok r =>
      simp only
      have asks : c.Asks user (.exchanged r (env.respond s.transcript r)) := ⟨r, _, rfl, asked⟩
      cases answer : (env.respond s.transcript r).token with
      | error f =>
        refine h.step other rfl asks unknown ?_ fun _ _ => rfl
        intro client
        refine iff_of_false ?_ ?_
        · intro found
          cases unknown.symm.trans found
        · rintro ⟨token, -, r', reply, a, same, -, issued, -⟩
          cases same
          rw [answer] at issued
          cases issued
      | ok a =>
        refine h.step other rfl asks unknown ?_ fun user' apart =>
          OrderedMap.find?_insert_ne _ _ apart
        intro client
        have issued : c.Issues user a.token (.exchanged r (env.respond s.transcript r)) :=
          ⟨r, _, a, rfl, asked, answer, rfl⟩
        simp only [OrderedMap.find?_insert_self, Option.some.injEq]
        constructor
        · rintro rfl
          exact ⟨a.token, rfl, issued⟩
        · rintro ⟨token, rfl, also⟩
          rw [issued.eq also]

/-- Handing out a client takes no request but with the credentials of its user. -/
theorem asks_clientFor (c : Context) (user : String) (env : Environment) (s : ContextState) :
    ∀ x ∈ (c.clientFor user env s).2.transcript.since s.transcript, c.Asks user x := by
  have silent : ∀ x ∈ s.transcript.since s.transcript, c.Asks user x := by
    rw [Transcript.since_self]
    exact List.forall_mem_nil _
  rw [clientFor_apply]
  cases c.clientOf s user with
  | some client => exact silent
  | none =>
    cases asked : c.tokenRequest user with
    | error f => exact silent
    | ok r =>
      have one : ∀ x ∈ (env.after s.transcript r).since s.transcript, c.Asks user x := by
        rw [env.since_after, List.forall_mem_singleton]
        exact ⟨r, _, rfl, asked⟩
      simp only
      cases (env.respond s.transcript r).token with
      | error f => exact one
      | ok a => exact one

/-- **A client that cannot be handed out** leaves all clients as they are: its request cannot be
sent, or the answer holds no token. -/
theorem clientFor_error {env : Environment} {f : Fault}
    (failed : (c.clientFor user env s).1 = .error f) :
    (c.clientFor user env s).2.clients = s.clients ∧
      (c.tokenRequest user = .error f ∧ (c.clientFor user env s).2 = s ∨
        ∃ r reply, c.tokenRequest user = .ok r ∧ reply.token = .error f ∧
          (c.clientFor user env s).2.transcript = .exchanged r reply :: s.transcript) := by
  rw [clientFor_apply] at failed ⊢
  cases known : c.clientOf s user with
  | some client => cases known ▸ failed
  | none =>
    simp only [known] at failed ⊢
    cases asked : c.tokenRequest user with
    | error f' =>
      simp only [asked] at failed ⊢
      cases failed
      exact ⟨trivial, .inl ⟨rfl, trivial⟩⟩
    | ok r =>
      simp only [asked] at failed ⊢
      cases answer : (env.respond s.transcript r).token with
      | error f' =>
        simp only [answer] at failed ⊢
        cases failed
        exact ⟨trivial, .inr ⟨r, _, rfl, answer, rfl⟩⟩
      | ok a =>
        simp only [answer] at failed
        cases failed

variable (c)

/-- The state after handing out some clients, whatever came of each. -/
def afterClients (env : Environment) (users : List String) (s : ContextState) : ContextState :=
  Program.inTurn env (users.map c.clientFor) s

theorem afterClients_append (env : Environment) (users users' : List String) (s : ContextState) :
    c.afterClients env (users ++ users') s =
      c.afterClients env users' (c.afterClients env users s) := by
  unfold afterClients
  rw [List.map_append, Program.inTurn_append]

theorem identified_after (env : Environment) (t : Transcript) (users : List String) :
    c.Identified t (c.afterClients env users (.start t)) := by
  induction users using List.reverseRecOn with
  | nil => exact c.identified_start t
  | append_singleton users user ih =>
    rw [afterClients_append]
    exact identified_clientFor ih user env

/-- What happened while some clients were handed out is part of what happened in the end. -/
theorem since_afterClients_subset (env : Environment) (t : Transcript)
    (users users' : List String) :
    (c.afterClients env users (.start t)).transcript.since t ⊆
      (c.afterClients env (users ++ users') (.start t)).transcript.since t := by
  have steps : ∀ m ∈ users'.map c.clientFor, Leads (ContextState.Later env) env m := by
    rw [List.forall_mem_map]
    exact fun user _ => c.later_clientFor user
  have onward : (c.afterClients env users (.start t)).transcript <:+
      (c.afterClients env users' (c.afterClients env users (.start t))).transcript :=
    (Leads.inTurn steps _).history.suffix
  rw [afterClients_append, Transcript.since_trans (c.identified_after env t users).grows onward]
  exact List.subset_append_right _ _

/-- **How the administrator's client comes about**: with the preset token, or the one that the
administrator was issued. -/
theorem admin_of_begin {settings : Settings} {env : Environment} {t₀ t : Transcript}
    (opened : Context.begin settings env t₀ = (.ok c, t)) :
    c.settings = settings ∧ ∃ token, c.admin = c.clientWith token ∧
      (settings.accessToken = some token ∨
        ∃ x ∈ t.since t₀, c.Issues settings.adminUser token x) := by
  unfold Context.begin adminClient at opened
  rw [Program.bind_apply] at opened
  cases preset : settings.accessToken with
  | some token =>
    simp only [preset] at opened
    cases opened
    exact ⟨rfl, token, rfl, .inl rfl⟩
  | none =>
    simp only [preset, RestClient.login_apply] at opened
    cases asked : settings.endpoint.tokenRequest (settings.credentialsFor settings.adminUser) with
    | error f =>
      simp only [asked] at opened
      cases opened
    | ok r =>
      simp only [asked] at opened
      cases answer : (env.respond t₀ r).token with
      | error f =>
        simp only [answer] at opened
        cases opened
      | ok a =>
        simp only [answer] at opened
        cases opened
        refine ⟨rfl, a.token, rfl, .inr ⟨.exchanged r (env.respond t₀ r), ?_, ?_⟩⟩
        · rw [env.since_after]
          exact List.mem_singleton_self _
        · exact ⟨r, _, a, rfl, asked, answer, rfl⟩

/-- **Requests go out under the right identity.**  The client of a user presents the token that the
user was issued, in the one exchange of the user's credentials that succeeded, and these are nobody
else's credentials; the administrator's presents the preset token, or that of the administrator. -/
theorem clientFor_authentic (env : Environment) (t : Transcript) (users : List String) :
    let admin := c.settings.adminUser
    let happened := (c.afterClients env users (.start t)).transcript.since t
    -- only credentials are sent, each time those of one user, and nobody is issued two tokens
    (∀ x ∈ happened, ∃! user, user ≠ admin ∧ c.Asks user x) ∧
    (∀ user, user ≠ admin → happened.Pairwise fun x y =>
      ¬ ((∃ token, c.Issues user token x) ∧ ∃ token, c.Issues user token y)) ∧
    (∀ done user later, users = done ++ user :: later →
      let s := c.afterClients env done (.start t)
      let ran := c.clientFor user env s
      -- the administrator's client is at hand
      (user = admin → ran = (.ok c.admin, s)) ∧
      (user ≠ admin →
        -- for anyone else no request is made but with the credentials of that user
        (∀ x ∈ ran.2.transcript.since s.transcript, c.Asks user x) ∧
        -- a client that is handed out presents the token that the user was issued
        (∀ client, ran.1 = .ok client → ∃ token, client = c.clientWith token ∧
          client.Presents token ∧ ∃ x ∈ happened, c.Issues user token x) ∧
        -- and what fails is the exchange, which leaves all clients as they are
        ∀ f, ran.1 = .error f → ran.2.clients = s.clients ∧
          (c.tokenRequest user = .error f ∧ ran.2 = s ∨
            ∃ r reply, c.tokenRequest user = .ok r ∧ reply.token = .error f ∧
              ran.2.transcript = .exchanged r reply :: s.transcript))) ∧
    -- the administrator's token was preset, or is the one that the administrator was issued
    ∀ settings t₀, Context.begin settings env t₀ = (.ok c, t) →
      ∃ token, c.admin = c.clientWith token ∧ c.admin.Presents token ∧
        (settings.accessToken = some token ∨ ∃ x ∈ t.since t₀, c.Issues admin token x) := by
  intro admin happened
  have presents (token : String) : (c.clientWith token).Presents token :=
    RestClient.presents_ofToken _ token
  have whole := c.identified_after env t users
  refine ⟨?_, whole.once, ?_, ?_⟩
  · intro x mem
    obtain ⟨user, other, asks⟩ := whole.asked x mem
    exact ⟨user, ⟨other, asks⟩, fun user' also => also.2.eq asks also.1 other⟩
  · intro done user later split s ran
    refine ⟨?_, ?_⟩
    · rintro rfl
      show c.clientFor _ env s = _
      rw [clientFor_apply, clientOf, if_pos rfl]
    · intro other
      refine ⟨c.asks_clientFor user env s, ?_, fun f failed => clientFor_error failed⟩
      intro client handed
      have after : ran.2 = c.afterClients env (done ++ [user]) (.start t) := by
        rw [afterClients_append]
        rfl
      have stored : ran.2.clients.find? user = some client := by
        have known := c.clientOf_of_clientFor (Prod.ext handed rfl : ran = (.ok client, ran.2))
        rwa [clientOf, if_neg other] at known
      rw [after] at stored
      obtain ⟨token, rfl, x, mem, issued⟩ :=
        ((c.identified_after env t (done ++ [user])).known other).1 stored
      refine ⟨token, rfl, presents token, x, ?_, issued⟩
      have part := c.since_afterClients_subset env t (done ++ [user]) later mem
      rwa [List.append_assoc, List.singleton_append, ← split] at part
  · intro settings t₀ opened
    obtain ⟨rfl, token, same, source⟩ := c.admin_of_begin opened
    exact ⟨token, same, same ▸ presents token, source⟩

/-- An exchange that failed is made again, one that succeeded is not. -/
example :
    let answer (t : Transcript) : String :=
      "\x7b\"access_token\":\"" ++ String.ofList (t.map fun _ => 't') ++ "\"\x7d"
    let respond (t : Transcript) (_ : Request) : Reply :=
      if t = [] then .dropped else .answered ⟨200, answer t⟩
    let s := afterClients .local (.replying respond) ["bob", "alice", "bob", "admin", "alice"]
      (.start [])
    s.transcript.length = 3 ∧ s.clients.find? "alice" = some (clientWith .local "t") ∧
      s.clients.find? "bob" = some (clientWith .local "tt") := by
  decide +kernel

end Context

end AccessHarness
