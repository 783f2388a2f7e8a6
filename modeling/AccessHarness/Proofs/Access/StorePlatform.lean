import AccessHarness.Proofs.Access.Documents
import AccessHarness.Proofs.Access.Effects

/-!
# A platform made of a store

Faithful platforms exist: take a store to begin with, the requests to refuse and the texts to
answer with, and answer as the store demands.  What cannot be answered truthfully is refused.

* `Change.eq_of_askedBy` — a posted request asks for one change at most.
* `StorePlatform` — the data of such a platform; `StorePlatform.faithful` — it is faithful.
* `StorePlatform.isAccepted_post` — it accepts every posted request it is not told to refuse.

### What is load-bearing

Requests to delete a namespace can be ambiguous, because a dot segment is resolved before the
request is sent; a platform of this kind refuses them.  Grants and revocations never are: their
bodies are different documents, and a grant and a revocation with the same body go to different
places.
-/

namespace AccessHarness

namespace Change

/-- The last segment of what is asked for says which change it is. -/
private theorem getLast?_path {ch : Change} {c : RestClient} {r : Request}
    (front : List String) (last : String) (sent : ch.requestOf c = .ok r)
    (route : ch.route = front ++ [last])
    (hup : Path.isUp (Route.encoded last) = false)
    (hhere : Path.isHere (Route.encoded last) = false) :
    ∃ segments, r.url.path = .rooted segments ∧
      segments.getLast? = some (Path.encodeSegment (Route.encoded last)) := by
  refine ⟨_, RestClient.path_of_request_route sent, ?_⟩
  rw [route, List.map_append, ← List.cons_append]
  exact Path.getLast?_walk _ _ hup hhere

/-- No request is one to grant and one to revoke. -/
private theorem not_grant_and_revoke {g : GrantRequest} {v : RevokeRequest} {r : Request}
    (granted : (grant g).AskedBy r) (revoked : (revoke v).AskedBy r) : False := by
  obtain ⟨c, sent⟩ := granted
  obtain ⟨c', sent'⟩ := revoked
  obtain ⟨segments, path, last⟩ := getLast?_path
    ["security", "authorization", "privileges"] "grant" sent rfl (by decide) (by decide)
  obtain ⟨segments', path', last'⟩ := getLast?_path
    ["security", "authorization", "privileges"] "revoke" sent' rfl (by decide) (by decide)
  rw [path, UrlPath.rooted.injEq] at path'
  rw [← path', last] at last'
  exact absurd last' (by decide)

/-- **A posted request asks for one change at most.** -/
theorem eq_of_askedBy {ch ch' : Change} {r : Request} (asked : ch.AskedBy r)
    (asked' : ch'.AskedBy r) (post : r.method = "POST") : ch = ch' := by
  have body : ch.body = ch'.body :=
    (body_eq_of_askedBy asked).symm.trans (body_eq_of_askedBy asked')
  have notDelete (ns : NamespaceId) : ¬ (delete ns).AskedBy r := by
    intro deleted
    have method : r.method = "DELETE" := method_eq_of_askedBy deleted
    rw [post] at method
    exact absurd method (by decide)
  -- documents tell two grants apart, and two revocations; places tell one from the other
  cases ch with
  | delete ns => exact absurd asked (notDelete ns)
  | grant g =>
    cases ch' with
    | delete ns => exact absurd asked' (notDelete ns)
    | grant g' => rw [GrantRequest.toJson_injective (Body.json.inj body)]
    | revoke v => exact (not_grant_and_revoke asked asked').elim
  | revoke v =>
    cases ch' with
    | delete ns => exact absurd asked' (notDelete ns)
    | grant g => exact (not_grant_and_revoke asked' asked).elim
    | revoke v' => rw [RevokeRequest.toJson_injective (Body.json.inj body)]

end Change

/-- **A platform made of a store.** -/
structure StorePlatform where
  /-- What it held at first. -/
  before : Store
  /-- What it refuses, and when. -/
  refuses : Transcript → Request → Prop
  /-- What it answers with otherwise. -/
  text : Transcript → Request → String

namespace StorePlatform

/-- Whether a text can stand in the answer to a request while a store is held. -/
structure Truthful (S : Store) (r : Request) (text : String) : Prop where
  unambiguous : ∀ ch ch' : Change, ch.AskedBy r → ch'.AskedBy r → ch = ch'
  readable : ∀ ch : Change, ch.AskedBy r → ch.method = "POST" →
    ∃ j, decodeBody Json.Decoder.any text = .ok j
  exact : ∀ {p listing}, Principal.ListedBy p r →
    decodeBody Privilege.setDecoder text = .ok listing →
    ∀ e a, OrderedMap.contains listing ⟨e, a⟩ = true ↔ ⟨p, e, a⟩ ∈ S

open Classical in
/-- What a request makes of a store once it is accepted. -/
noncomputable def carriedOut (r : Request) (S : Store) : Store :=
  if h : ∃ ch : Change, ch.AskedBy r then h.choose.apply S else S

/-- What the platform holds. -/
noncomputable def held (P : StorePlatform) : Transcript → Store
  | [] => P.before
  | .exchanged r reply :: t => if reply.isAccepted then carriedOut r (held P t) else held P t
  | .slept _ :: t => held P t

open Classical in
/-- How the platform answers. -/
noncomputable def respond (P : StorePlatform) (t : Transcript) (r : Request) : Reply :=
  if ¬ P.refuses t r ∧ Truthful (P.held t) r (P.text t r) then .answered ⟨200, P.text t r⟩
  else .answered ⟨403, ""⟩

/-- An environment with the platform in it, and with nothing else. -/
noncomputable def environment (P : StorePlatform) : Environment :=
  .replying P.respond

/-- The platform that refuses nothing it can answer, and says nothing. -/
def accepting (S : Store) : StorePlatform := ⟨S, fun _ _ => False, fun _ _ => ""⟩

variable (P : StorePlatform)

theorem isAccepted_respond_iff {t : Transcript} {r : Request} :
    (P.environment.respond t r).isAccepted = true ↔
      ¬ P.refuses t r ∧ Truthful (P.held t) r (P.text t r) := by
  show (P.respond t r).isAccepted = true ↔ _
  unfold respond
  split
  · rename_i answers
    exact iff_of_true rfl answers
  · rename_i refuses
    exact iff_of_false (by decide) refuses

theorem text_of_respond {t : Transcript} {r : Request} {response : Response}
    (h : P.respond t r = .answered response) (success : Status.isSuccess response.status = true) :
    response.body = P.text t r ∧ Truthful (P.held t) r (P.text t r) := by
  unfold respond at h
  split at h
  · rename_i answers
    cases h
    exact ⟨rfl, answers.2⟩
  · cases h
    exact absurd success (by decide)

theorem held_after (t : Transcript) (r : Request) :
    P.held (P.environment.after t r) =
      if (P.environment.respond t r).isAccepted then carriedOut r (P.held t) else P.held t := rfl

/-- **A platform made of a store is faithful.** -/
theorem faithful : Faithful P.environment P.held where
  applied := by
    intro t r ch asked accepted
    rw [held_after, if_pos accepted]
    have unambiguous := ((P.isAccepted_respond_iff).1 accepted).2.unambiguous
    have exists_change : ∃ ch : Change, ch.AskedBy r := ⟨ch, asked⟩
    rw [carriedOut, dif_pos exists_change, unambiguous _ ch exists_change.choose_spec asked]
  kept := by
    intro t r changeless
    rw [held_after]
    split
    · rename_i accepted
      rw [carriedOut, dif_neg]
      rintro ⟨ch, asked⟩
      exact changeless accepted ch asked
    · rfl
  slept _ _ := rfl
  readable := by
    intro t r response ch asked post answered success
    obtain ⟨body, truthful⟩ := P.text_of_respond answered success
    rw [body]
    exact truthful.readable ch asked post
  listed := by
    intro t r p response listing asked answered success read
    obtain ⟨body, truthful⟩ := P.text_of_respond answered success
    rw [body] at read
    exact truthful.exact asked read

/-- **What is posted is accepted unless it shall be refused.** -/
theorem isAccepted_post {t : Transcript} {r : Request} (post : r.method = "POST")
    (accepts : ¬ P.refuses t r) (blank : P.text t r = "") :
    (P.environment.respond t r).isAccepted = true := by
  refine P.isAccepted_respond_iff.2 ⟨accepts, ?_, ?_, ?_⟩
  · intro ch ch' asked asked'
    exact Change.eq_of_askedBy asked asked' post
  · intro ch asked posted
    rw [blank]
    exact ⟨.null, by rfl⟩
  · rintro p listing ⟨c, sent⟩
    have get := (RestClient.request_eq_ok sent).1
    rw [post] at get
    exact absurd get (by decide)

/-! ### What it answers -/

section

variable (t : Transcript)

/-- A change that shall not be refused is carried out. -/
theorem exists_ask_eq_ok {c : RestClient} (ch : Change) (sends : c.CanSend)
    (post : ch.method = "POST") (accepts : ∀ r, ch.AskedBy r → ¬ P.refuses t r)
    (blank : ∀ r, r.method = "POST" → P.text t r = "") :
    ∃ t', c.ask ch P.environment t = (.ok (), t') ∧ P.held t' = ch.apply (P.held t) := by
  have asked := P.faithful.asked c ch t
  generalize c.ask ch P.environment t = out at asked
  cases asked with
  | unsent f mute => exact absurd sends mute
  | accepted r sends asked acceptance done => exact ⟨_, rfl, done⟩
  | refused f r sends asked refusal same =>
    have posted : r.method = "POST" := (Change.method_eq_of_askedBy asked).trans post
    rw [P.isAccepted_post posted (accepts r asked) (blank r posted)] at refusal
    cases refusal

/-- A change that shall be refused is refused. -/
theorem exists_ask_eq_error {c : RestClient} (ch : Change) (sends : c.CanSend)
    (refuses : ∀ r, ch.AskedBy r → P.refuses t r) :
    ∃ f t', c.ask ch P.environment t = (.error f, t') ∧ P.held t' = P.held t := by
  have asked := P.faithful.asked c ch t
  generalize c.ask ch P.environment t = out at asked
  cases asked with
  | unsent f mute => exact absurd sends mute
  | refused f r sends asked refusal same => exact ⟨f, _, rfl, same⟩
  | accepted r sends asked acceptance done =>
    exact absurd (refuses r asked) (P.isAccepted_respond_iff.1 acceptance).1

/-- A listing that is the same for everybody is answered. -/
theorem exists_privileges_eq_ok {m : AccessModel} {listing : OrderedSet Privilege}
    (p : Principal) (sends : m.admin.CanSend)
    (accepts : ∀ r, r.method = "GET" → ¬ P.refuses t r)
    (decodes : ∀ r, r.method = "GET" →
      decodeBody Privilege.setDecoder (P.text t r) = .ok listing)
    (exact : ∀ p e a, OrderedMap.contains listing ⟨e, a⟩ = true ↔ ⟨p, e, a⟩ ∈ P.held t) :
    ∃ t', m.privileges p P.environment t = (.ok listing, t') ∧ P.held t' = P.held t := by
  obtain ⟨r, sent⟩ := (m.admin.request_route_iff "GET"
    ["security", "authorization", p.kind.segment, p.name, "privileges"] .empty).2 sends
  have get := (RestClient.request_eq_ok sent).1
  have noChange (ch : Change) : ¬ ch.AskedBy r := by
    intro asked
    have method := Change.method_eq_of_askedBy asked
    rw [get] at method
    rcases ch.method_cases with h | h <;> rw [h] at method <;> exact absurd method (by decide)
  have truthful : Truthful (P.held t) r (P.text t r) := by
    refine ⟨fun ch _ asked _ => absurd asked (noChange ch),
      fun ch asked _ => absurd asked (noChange ch), ?_⟩
    intro p' listing' _ read e a
    rw [decodes r get, Except.ok.injEq] at read
    rw [← read]
    exact exact p' e a
  have answered : P.environment.respond t r = .answered ⟨200, P.text t r⟩ :=
    if_pos ⟨accepts r get, truthful⟩
  refine ⟨P.environment.after t r, ?_, P.faithful.kept fun _ => noChange⟩
  unfold AccessModel.privileges RestClient.listPrivileges RestClient.get
  rw [Program.bind_apply, RestClient.call_apply, sent]
  simp only
  rw [answered]
  show (decodeBody Privilege.setDecoder (P.text t r), P.environment.after t r) = _
  rw [decodes r get]

end

theorem obliging_accepting (S : Store) : Obliging (accepting S).environment := by
  intro t r post
  exact (accepting S).isAccepted_post post not_false rfl

end StorePlatform

/-- A client of a platform on the same machine, without a token. -/
def RestClient.local : RestClient :=
  ⟨⟨['h', 't', 't', 'p'], [], none, some (.ipv4 0x7f000001), none, .rooted [[]], none, none⟩, none⟩

theorem RestClient.canSend_local : RestClient.local.CanSend :=
  ⟨by decide, ⟨[[]], rfl⟩, fun _ given => nomatch given⟩

/-- An access model that acts through that client and refreshes nothing. -/
def AccessModel.local : AccessModel := ⟨.local, .manual, ""⟩

end AccessHarness
