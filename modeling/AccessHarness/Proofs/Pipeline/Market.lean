import AccessHarness.Pipeline.Plugins
import AccessHarness.Proofs.Access.Verdicts
import Mathlib.Data.List.Forall2

/-!
# Where a token goes

Two callers with tokens of their own do the same thing, and are answered alike.  What others than
the platform see of it is the same for both exactly if nobody else is asked at all: a client sends
its token with every request, and the market is asked by the client of the platform.

* `Request.Twins` — two requests that differ in the token only.
* `Session.Alike` — two programs that go the same way, with twin requests.
* `RestClient.alike_send` — a client and another with a token of its own are alike.
* `Transcript.elsewhere` — what is sent to hosts other than that of the platform.
* `Market.install_elsewhere_eq_iff` — two callers are told apart by it unless it is empty.
* `Market.exists_asked_of_described` — it is not, once a market on another host is known.

### What is load-bearing

**Answers come in a sequence** (`Environment.Recites`).  A platform may well answer two callers
differently, and then their runs differ for a reason of its own.  Where it answers both alike, a
token decides nothing, and every difference between two runs is one between twins.

**The host decides, not the market.**  The request that forwards a plugin is put together from a
setting of the platform, which can name any port and more than that.  So nothing is assumed of where
it goes; whoever is asked is shown the token.
-/

namespace AccessHarness

/-! ### Two runs -/

/-- **Two requests that differ in the token only.** -/
def Request.Twins (a b : String) (r q : Request) : Prop :=
  ∃ front back, r.headers = front ++ ("authorization", "Bearer " ++ a) :: back ∧
    q = { r with headers := front ++ ("authorization", "Bearer " ++ b) :: back }

/-- Twins are one request only if their tokens are one. -/
theorem Request.Twins.eq_iff {a b : String} {r q : Request} (h : Twins a b r q) :
    r = q ↔ a = b := by
  obtain ⟨front, back, carried, rfl⟩ := h
  constructor
  · intro same
    have headers := congrArg Request.headers same
    rw [carried, List.append_right_inj, List.cons.injEq, Prod.mk.injEq] at headers
    exact String.append_right_inj _ |>.1 headers.1.2
  · rintro rfl
    rw [← carried]

/-- Two events of the same kind, with twin requests and one reply. -/
inductive Event.Twins (a b : String) : Event → Event → Prop
  | exchanged {r q : Request} (twins : r.Twins a b q) (reply : Reply) :
      Event.Twins a b (.exchanged r reply) (.exchanged q reply)

/-- **Two histories that differ in the token only**, since they were one. -/
def Transcript.Twins (a b : String) (start t u : Transcript) : Prop :=
  ∃ d d', t = d ++ start ∧ u = d' ++ start ∧ List.Forall₂ (Event.Twins a b) d d'

/-- **The answers come one after the other**, whatever is asked. -/
def Environment.Recites (env : Environment) (answers : Nat → Reply) : Prop :=
  ∀ t r, env.respond t r = answers t.exchanges.length

namespace Transcript

variable {a b : String} {start t u : Transcript}

/-- The requests of a stretch, the earliest first. -/
def requests (during : Transcript) : List Request := during.exchanges.map (·.1)

/-- **What is sent to hosts other than one.** -/
def elsewhere (host : Option Host) (during : Transcript) : List Request :=
  during.requests.filter fun r => r.url.host != host

@[simp] theorem requests_exchanged (r : Request) (reply : Reply) (during : Transcript) :
    requests (.exchanged r reply :: during) = requests during ++ [r] := by
  simp [requests, exchanges]

theorem mem_requests {during : Transcript} {r : Request} {reply : Reply}
    (h : .exchanged r reply ∈ during) : r ∈ during.requests := by
  unfold requests exchanges
  rw [List.mem_map]
  exact ⟨(r, reply), List.mem_filterMap.2 ⟨_, List.mem_reverse.2 h, rfl⟩, rfl⟩

/-- Twin events make twin requests. -/
theorem forall₂_requests {d d' : Transcript} (h : List.Forall₂ (Event.Twins a b) d d') :
    List.Forall₂ (Request.Twins a b) (requests d) (requests d') := by
  induction h with
  | nil => exact .nil
  | cons first _ ih =>
    obtain ⟨twins, reply⟩ := first
    rw [requests_exchanged, requests_exchanged]
    exact List.rel_append ih (.cons twins .nil)

/-- Twins go to one host, so what goes elsewhere is twins too. -/
theorem forall₂_elsewhere {d d' : Transcript} (host : Option Host)
    (h : List.Forall₂ (Event.Twins a b) d d') :
    List.Forall₂ (Request.Twins a b) (elsewhere host d) (elsewhere host d') := by
  have twins := forall₂_requests h
  unfold elsewhere
  generalize requests d = l, requests d' = l' at twins
  induction twins with
  | nil => exact .nil
  | cons twins _ ih =>
    rename_i r q _ _ _
    have same : q.url = r.url := by
      obtain ⟨front, back, -, rfl⟩ := twins
      rfl
    by_cases other : (r.url.host != host) = true
    · rw [List.filter_cons, List.filter_cons, if_pos other, if_pos (same ▸ other)]
      exact .cons twins ih
    · rw [List.filter_cons, List.filter_cons, if_neg other, if_neg (same ▸ other)]
      exact ih

/-- **Twins are told apart by any request**, unless their tokens are one. -/
theorem eq_iff_of_twins {l l' : List Request} (h : List.Forall₂ (Request.Twins a b) l l') :
    l = l' ↔ a = b ∨ l = [] := by
  induction h with
  | nil => exact iff_of_true rfl (.inr rfl)
  | cons twins _ ih =>
    rw [List.cons.injEq, twins.eq_iff, ih]
    constructor
    · exact fun h => .inl h.1
    · rintro (same | none)
      · exact ⟨same, .inl same⟩
      · cases none

/-- A twin shows its token. -/
theorem carried_of_twins {l l' : List Request} (h : List.Forall₂ (Request.Twins a b) l l') :
    ∀ r ∈ l, ("authorization", "Bearer " ++ a) ∈ r.headers := by
  induction h with
  | nil => exact List.forall_mem_nil _
  | cons twins _ ih =>
    obtain ⟨front, back, carried, -⟩ := twins
    rw [List.forall_mem_cons]
    refine ⟨?_, ih⟩
    rw [carried]
    exact List.mem_append_right _ List.mem_cons_self

theorem Twins.refl (start : Transcript) : Twins a b start start start := ⟨[], [], rfl, rfl, .nil⟩

/-- Twin histories are equally long. -/
theorem Twins.length_exchanges (h : Twins a b start t u) :
    t.exchanges.length = u.exchanges.length := by
  obtain ⟨d, d', rfl, rfl, twins⟩ := h
  have same := (forall₂_requests twins).length_eq
  unfold requests at same
  rw [List.length_map, List.length_map] at same
  rw [exchanges_append, exchanges_append, List.length_append, List.length_append, same]

theorem Twins.exchanged (h : Twins a b start t u) {r q : Request} (twins : r.Twins a b q)
    (reply : Reply) : Twins a b start (.exchanged r reply :: t) (.exchanged q reply :: u) := by
  obtain ⟨d, d', rfl, rfl, rest⟩ := h
  exact ⟨_ :: d, _ :: d', rfl, rfl, .cons (.exchanged twins reply) rest⟩

end Transcript

open Transcript (Twins)

/-- **Two programs that go the same way**, with twin requests. -/
def Session.Alike {α : Type} (a b : String) (env : Environment) (m m' : Session α) : Prop :=
  ∀ start t u, Twins a b start t u →
    (m env t).1 = (m' env u).1 ∧ Twins a b start (m env t).2 (m' env u).2

namespace Session.Alike

variable {α β : Type} {a b : String} {env : Environment}

theorem ofOutcome (o : Outcome α) : Alike a b env (Session.ofOutcome o) (Session.ofOutcome o) :=
  fun _ _ _ twins => ⟨rfl, twins⟩

theorem pure (x : α) : Alike a b env (Pure.pure x : Session α) (Pure.pure x) := ofOutcome (.ok x)

theorem bind {m m' : Session α} {k k' : α → Session β} (first : Alike a b env m m')
    (rest : ∀ x, Alike a b env (k x) (k' x)) : Alike a b env (m >>= k) (m' >>= k') := by
  intro start t u twins
  obtain ⟨outcome, after⟩ := first start t u twins
  rw [Program.bind_apply, Program.bind_apply]
  generalize m env t = out at outcome after ⊢
  generalize m' env u = out' at outcome after ⊢
  obtain ⟨o, t₁⟩ := out
  obtain ⟨o', u₁⟩ := out'
  cases outcome
  cases o with
  | error f => exact ⟨rfl, after⟩
  | ok x => exact rest x start t₁ u₁ after

/-- A program with a twin only adds to a history. -/
theorem suffix {m m' : Session α} (h : Alike a b env m m') (t : Transcript) :
    t <:+ (m env t).2 := by
  obtain ⟨-, d, -, grown, -⟩ := h t t t (.refl t)
  exact ⟨d, grown.symm⟩

/-- What comes after a step only adds to it. -/
theorem suffix_bind {m : Session α} {k k' : α → Session β} {t t₁ : Transcript} {o : Outcome α}
    (first : m env t = (o, t₁)) (rest : ∀ x, Alike a b env (k x) (k' x)) :
    t₁ <:+ ((m >>= k) env t).2 := by
  rw [Program.bind_apply, first]
  cases o with
  | error f => exact List.suffix_refl t₁
  | ok x => exact (rest x).suffix t₁

/-- **What is recited is answered to both.** -/
theorem send {answers : Nat → Reply} (recites : env.Recites answers) {r q : Request}
    (twins : r.Twins a b q) : Alike a b env (Session.send r) (Session.send q) := by
  intro start t u sofar
  have url : q.url = r.url := by
    obtain ⟨front, back, -, rfl⟩ := twins
    rfl
  have reply : env.respond u q = env.respond t r := by
    rw [recites, recites, sofar.length_exchanges]
  unfold Session.send
  rw [url, reply]
  split
  · have after := sofar.exchanged twins (env.respond t r)
    cases answer : env.respond t r <;> rw [answer] at after <;> exact ⟨rfl, after⟩
  · exact ⟨rfl, sofar⟩

end Session.Alike

open Session (Alike)

namespace RestClient

variable {a b : String} {env : Environment} {answers : Nat → Reply} (base : Url)

/-- A token that can be sent is. -/
theorem authorization_of_valid {token : String} (valid : Header.isValue token = true) :
    authorization ⟨base, some token⟩ = .ok [("authorization", "Bearer " ++ token)] := by
  simp [authorization, valid]

/-- **A client and another with a token of its own are alike**: the token is in every request. -/
theorem alike_send (recites : env.Recites answers) (ha : Header.isValue a = true)
    (hb : Header.isValue b = true) (method : String) (url : Url)
    (headers : List (String × String)) (body : Body) :
    Alike a b env (send ⟨base, some a⟩ method url headers body)
      (send ⟨base, some b⟩ method url headers body) := by
  unfold send
  rw [authorization_of_valid base ha, authorization_of_valid base hb]
  refine .send recites ⟨headers, contentType body, ?_, ?_⟩
  · simp
  · simp

/-- What is sent to a web address is one exchange. -/
theorem exists_send_eq (env : Environment) (base : Url) (ha : Header.isValue a = true)
    (method : String) {url : Url} (web : url.isWeb = true) (headers : List (String × String))
    (t : Transcript) :
    ∃ o, send ⟨base, some a⟩ method url headers .empty env t =
      (o, env.after t ⟨method, url, headers ++ [("authorization", "Bearer " ++ a)], .empty⟩) := by
  rw [send_apply, authorization_of_valid base ha]
  simp only [if_pos web, contentType, Body.contentType?, List.append_nil]
  exact ⟨_, rfl⟩

theorem alike_get {α : Type} (recites : env.Recites answers) (ha : Header.isValue a = true)
    (hb : Header.isValue b = true) (d : Json.Decoder α) (path : String) :
    Alike a b env (get ⟨base, some a⟩ d path) (get ⟨base, some b⟩ d path) := by
  refine .bind (.bind (.ofOutcome _) fun url => ?_) fun r => .ofOutcome _
  exact .bind (alike_send base recites ha hb _ url _ _) fun r => .ofOutcome _

end RestClient

/-- Outcomes that depend on one another are taken over one after the other. -/
theorem Session.ofOutcome_bind {α β : Type} (o : Outcome α) (f : α → Outcome β) :
    Session.ofOutcome (o >>= f) = (Session.ofOutcome o >>= fun x => Session.ofOutcome (f x)) := by
  cases o <;> rfl

namespace Market

/-- The market that is asked, by the settings of the platform. -/
def chosen (override : Option String) (config : OrderedMap String ConfigEntry) :
    Outcome String :=
  match override with
  | some market => .ok market
  | none => setting config "market.base.url"

/-- **Where the market describes a plugin**, by the settings of the platform. -/
def described (override : Option String) (package plugin version : String)
    (config : OrderedMap String ConfigEntry) : Outcome Url := do
  let market ← chosen override config
  readTarget (descriptionUrl market package plugin version)

/-- What the dashboard is asked for, once the market has described a plugin. -/
def forwarding (base : Url) (ns : NamespaceId) (package plugin version : String)
    (config : OrderedMap String ConfigEntry) (description : Url) (r : Response) :
    Outcome (Url × List (String × String)) :=
  if r.status != 200 then
    .error (.expectation ("GET " ++ description.text ++ " returned " ++ Status.display r.status))
  else do
    let parents ← decodeBody marketPluginDecoder r.body
    let port ← setting config (portSetting base)
    let forward ← readTarget (forwardUrl base port (sourcePath package plugin version)
      (targetPath ns plugin))
    let headers ← Header.fields
      [("artifact-extends", String.intercalate "/" parents), ("artifact-version", version)]
    return (forward, headers)

/-- What is made of the answer of the dashboard. -/
def installed (plugin version : String) (r : Response) : Outcome Unit :=
  if r.status != 200 then
    .error (.expectation ("installing " ++ plugin ++ " " ++ version ++
      " from the market returned " ++ Status.display r.status ++ ": " ++ r.body))
  else .ok ()

/-- **An installation asks three times**: the platform, the market, the dashboard. -/
theorem install_eq (c : RestClient) (ns : NamespaceId) (override : Option String)
    (package plugin version : String) :
    install c ns override package plugin version = (do
      let config ← c.platformConfig
      let description ← Session.ofOutcome (described override package plugin version config)
      let r ← c.send "GET" description [] .empty
      let (forward, headers) ← Session.ofOutcome
        (forwarding c.base ns package plugin version config description r)
      let r ← c.send "GET" forward headers .empty
      Session.ofOutcome (installed plugin version r)) := by
  unfold install described
  refine bind_congr fun config => ?_
  rw [Session.ofOutcome_bind, bind_assoc]
  -- the two ways to a market come together at once
  have market : ∀ k : String → Session Unit, (match override with
      | some m => pure m >>= k
      | none => Session.ofOutcome (setting config "market.base.url") >>= k) =
        (Session.ofOutcome (chosen override config) >>= k) := by
    intro k
    cases override <;> rfl
  refine (market _).trans (bind_congr fun market => bind_congr fun description =>
    bind_congr fun r => ?_)
  have answered (r : Response) : (if r.status != 200 then
      throw (.expectation ("installing " ++ plugin ++ " " ++ version ++
        " from the market returned " ++ Status.display r.status ++ ": " ++ r.body))
      else pure () : Session Unit) = Session.ofOutcome (installed plugin version r) := by
    unfold installed
    split <;> rfl
  unfold forwarding
  by_cases status : (r.status != 200) = true
  · rw [if_pos status, if_pos status]
    rfl
  · rw [if_neg status, if_neg status]
    simp only [Session.ofOutcome_bind, bind_assoc, answered]
    rfl

/-- Once the market has described a plugin, the rest goes the same way. -/
private theorem alike_forward (recites : env.Recites answers) (base : Url)
    (ha : Header.isValue a = true) (hb : Header.isValue b = true) (plugin version : String)
    (forwarding : Outcome (Url × List (String × String))) :
    Alike a b env
      (Session.ofOutcome forwarding >>= fun (forward, headers) =>
        RestClient.send ⟨base, some a⟩ "GET" forward headers .empty >>= fun r =>
          Session.ofOutcome (installed plugin version r))
      (Session.ofOutcome forwarding >>= fun (forward, headers) =>
        RestClient.send ⟨base, some b⟩ "GET" forward headers .empty >>= fun r =>
          Session.ofOutcome (installed plugin version r)) :=
  .bind (.ofOutcome _) fun (forward, headers) =>
    .bind (RestClient.alike_send base recites ha hb _ forward headers _) fun _ => .ofOutcome _

/-- **Two callers install alike**, each with a token of its own. -/
theorem alike_install (recites : env.Recites answers) (base : Url)
    (ha : Header.isValue a = true) (hb : Header.isValue b = true) (ns : NamespaceId)
    (override : Option String) (package plugin version : String) :
    Alike a b env (install ⟨base, some a⟩ ns override package plugin version)
      (install ⟨base, some b⟩ ns override package plugin version) := by
  have config : Alike a b env (RestClient.platformConfig ⟨base, some a⟩)
      (RestClient.platformConfig ⟨base, some b⟩) :=
    .bind (RestClient.alike_get base recites ha hb _ _) fun entries => .pure _
  rw [install_eq, install_eq]
  refine .bind config fun config => .bind (.ofOutcome _) fun description => ?_
  exact .bind (RestClient.alike_send base recites ha hb _ description _ _) fun r =>
    alike_forward recites base ha hb plugin version _

/-- **The market is asked once it is known**, and it is shown the token. -/
theorem exists_asked_of_described (recites : env.Recites answers) (base : Url)
    (ha : Header.isValue a = true) (ns : NamespaceId) (override : Option String)
    (package plugin version : String) {t t₁ : Transcript} {config : OrderedMap String ConfigEntry}
    {u : Url} (known : RestClient.platformConfig ⟨base, some a⟩ env t = (.ok config, t₁))
    (place : described override package plugin version config = .ok u) (web : u.isWeb = true) :
    ∃ reply, .exchanged ⟨"GET", u, [("authorization", "Bearer " ++ a)], .empty⟩ reply ∈
      (install ⟨base, some a⟩ ns override package plugin version env t).2.since t := by
  have read : Alike a a env (RestClient.platformConfig ⟨base, some a⟩)
      (RestClient.platformConfig ⟨base, some a⟩) :=
    .bind (RestClient.alike_get base recites ha ha _ _) fun entries => .pure _
  have sofar : t <:+ t₁ := by
    have grows := read.suffix t
    rwa [known] at grows
  obtain ⟨before, rfl⟩ := sofar
  obtain ⟨o, sent⟩ := RestClient.exists_send_eq env base ha "GET" web [] (before ++ t)
  obtain ⟨later, whole⟩ := Alike.suffix_bind sent fun r =>
    alike_forward recites base ha ha plugin version
      (forwarding base ns package plugin version config u r)
  let asked : Request := ⟨"GET", u, [("authorization", "Bearer " ++ a)], .empty⟩
  let reply := env.respond (before ++ t) asked
  have run : (install ⟨base, some a⟩ ns override package plugin version env t).2 =
      (later ++ .exchanged asked reply :: before) ++ t := by
    rw [install_eq, Program.bind_apply, known]
    simp only
    rw [Program.bind_apply, place, List.append_assoc]
    exact whole.symm
  rw [run, Transcript.since_append]
  exact ⟨reply, List.mem_append_right _ List.mem_cons_self⟩

/-- **Two callers are told apart by what others see of them**, unless others see nothing.  Whoever is
asked is shown the token; and the market is asked as soon as the settings say where it is. -/
theorem install_elsewhere_eq_iff (recites : env.Recites answers) (base : Url)
    (ha : Header.isValue a = true) (hb : Header.isValue b = true) (ns : NamespaceId)
    (override : Option String) (package plugin version : String) (t : Transcript) :
    let seen (token : String) := ((install ⟨base, some token⟩ ns override package plugin version
      env t).2.since t).elsewhere base.host
    (seen a = seen b ↔ a = b ∨ seen a = []) ∧
      (∀ r ∈ seen a, ("authorization", "Bearer " ++ a) ∈ r.headers) ∧
      ∀ config t₁ u, RestClient.platformConfig ⟨base, some a⟩ env t = (.ok config, t₁) →
        described override package plugin version config = .ok u → u.isWeb = true →
        u.host ≠ base.host →
        ⟨"GET", u, [("authorization", "Bearer " ++ a)], .empty⟩ ∈ seen a := by
  obtain ⟨-, d, d', grown, grown', twins⟩ := alike_install recites base ha hb ns override package
    plugin version t t t (.refl t)
  intro seen
  have seenA : seen a = d.elsewhere base.host := by
    show Transcript.elsewhere _ _ = _
    rw [grown, Transcript.since_append]
  have seenB : seen b = d'.elsewhere base.host := by
    show Transcript.elsewhere _ _ = _
    rw [grown', Transcript.since_append]
  have apart := Transcript.forall₂_elsewhere base.host twins
  refine ⟨?_, ?_, ?_⟩
  · rw [seenA, seenB]
    exact Transcript.eq_iff_of_twins apart
  · intro r mem
    rw [seenA] at mem
    exact Transcript.carried_of_twins apart r mem
  · intro config t₁ u known place web foreign
    obtain ⟨reply, asked⟩ := exists_asked_of_described recites base ha ns override package plugin
      version known place web
    refine List.mem_filter.2 ⟨Transcript.mem_requests asked, ?_⟩
    simpa using foreign

end Market

/-- A platform that says where the market is, and a market that describes every plugin. -/
def Market.answers : Nat → Reply
  | 0 => .answered ⟨200, "[\x7b\"name\":\"market.base.url\",\"value\":\"http://market.test/v2/\"\x7d,
      \x7b\"name\":\"dashboard.bind.port\",\"value\":\"11011\"\x7d]"⟩
  | 1 => .answered ⟨200, "\x7b\"parents\":[]\x7d"⟩
  | _ => .answered ⟨200, ""⟩

/-- A market that is named outright is asked all the same, and told the callers apart by. -/
theorem Market.install_elsewhere_eq_iff_override :
    let env : Environment := .replying fun t _ => Market.answers t.exchanges.length
    let seen (token : String) := ((Market.install ⟨RestClient.local.base, some token⟩ ⟨"ns1"⟩
      (some "http://mirror.test") "pkg" "wrangler-transform" "1.2.0" env []).2.since []).elsewhere
        RestClient.local.base.host
    env.Recites Market.answers ∧ Header.isValue "t" = true ∧ Header.isValue "u" = true ∧
      seen "t" ≠ seen "u" := by
  intro env seen
  have recites : env.Recites Market.answers := fun _ _ => rfl
  have asked : seen "t" ≠ [] := by decide +kernel
  obtain ⟨same, -⟩ := Market.install_elsewhere_eq_iff recites RestClient.local.base
    (show Header.isValue "t" = true by decide) (show Header.isValue "u" = true by decide) ⟨"ns1"⟩
    (some "http://mirror.test") "pkg" "wrangler-transform" "1.2.0" []
  refine ⟨recites, by decide, by decide, ?_⟩
  intro equal
  rcases same.1 equal with one | nothing
  · exact absurd one (by decide)
  · exact asked nothing

/-- **The market is shown the token**, and so can tell two callers apart. -/
theorem Market.install_elsewhere_ne :
    let env : Environment := .replying fun t _ => Market.answers t.exchanges.length
    let seen (token : String) := ((Market.install ⟨RestClient.local.base, some token⟩ ⟨"ns1"⟩ none
      "pkg" "wrangler-transform" "1.2.0" env []).2.since []).elsewhere RestClient.local.base.host
    env.Recites Market.answers ∧ Header.isValue "t" = true ∧ Header.isValue "u" = true ∧
      seen "t" ≠ seen "u" := by
  intro env seen
  refine ⟨fun _ _ => rfl, by decide, by decide, ?_⟩
  decide +kernel

end AccessHarness
