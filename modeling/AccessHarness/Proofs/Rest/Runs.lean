import AccessHarness.Proofs.Session.Histories

/-!
# Waiting for runs

A wait for runs sends one request again and again until it likes what is listed.  Whatever the
platform answers, and however long it takes, what the wait comes to was listed by the last answer,
and no answer before it would have done.

* `Environment.beforeAsking`, `Environment.answerTo`, `Environment.answeredIn` — what has happened
  when a request is sent once more, what is answered, and when.
* `Reply.LeavesOpen` — answers after which a wait goes on.
* `RestClient.Finds` — how a wait comes to what it finds: the answers before left it open.
* `RestClient.waitForValue_get_eq_ok_iff` — a wait for a value succeeds in no other way.
* `RestClient.waitForRun_returns_listed` — what waits for a run, and for a number of runs, come to.

### What is load-bearing

**The request stays the same.**  It is made of the client and the path alone
(`RestClient.get_apply`), so all that differs between two evaluations is what the platform answers,
and the course of a wait is a sequence of replies and nothing else (`RestClient.inVain_get_iff`).

**A failed check is made by the harness, not of an answer.**  No fault of a question or of a wait
is one (`RestClient.kind_of_waitForValue_get`), so a wait for a run could fail like that only
through its own last step; and the listing that is handed to it is not empty, or it would not have
been accepted (`RestClient.waitForRun_cases`).
-/

namespace AccessHarness

/-! ### One request, again and again -/

namespace Environment

variable (env : Environment) (w : WaitSpec) (r : Request) (t : Transcript)

/-- **What has happened when a request is sent for another time**: before, it was sent some times,
and the wait slept after each of them, for its interval or for what was left of its timeout. -/
def beforeAsking : Nat → Transcript
  | 0 => t
  | k + 1 =>
    let answered := env.after (beforeAsking k) r
    .slept (w.pause (env.clock answered - env.clock t)) :: answered

/-- What is answered then. -/
def answerTo (k : Nat) : Reply := env.respond (env.beforeAsking w r t k) r

/-- How long after the start of the wait it is answered. -/
def answeredIn (k : Nat) : Nat := env.clock (env.after (env.beforeAsking w r t k) r) - env.clock t

theorem suffix_beforeAsking (k : Nat) : t <:+ env.beforeAsking w r t k := by
  induction k with
  | zero => exact List.suffix_refl t
  | succ k ih => exact (ih.trans (env.suffix_after _ r)).trans (List.suffix_cons _ _)

/-- A request takes its time. -/
theorem clock_after : env.clock (env.after t r) = env.clock t + env.latency t r :=
  env.clock_exchanged r _ t

/-- The clock does not go back. -/
theorem clock_le_beforeAsking (k : Nat) : env.clock t ≤ env.clock (env.beforeAsking w r t k) := by
  induction k with
  | zero => exact Nat.le_refl _
  | succ k ih =>
    rw [beforeAsking, clock_slept, clock_after]
    omega

/-- The request is sent again when the pause after an answer is over. -/
theorem clock_beforeAsking_succ (k : Nat) :
    env.clock (env.beforeAsking w r t (k + 1)) - env.clock t =
      env.answeredIn w r t k + w.pause (env.answeredIn w r t k) := by
  have before := env.clock_le_beforeAsking w r t k
  rw [beforeAsking, clock_slept, answeredIn, clock_after]
  omega

/-- **Nothing but the request is sent**, up to any of the answers. -/
theorem exchanges_answerTo (k : Nat) :
    ((env.after (env.beforeAsking w r t k) r).since t).exchanges =
      (List.range (k + 1)).map fun j => (r, env.answerTo w r t j) := by
  induction k with
  | zero =>
    rw [beforeAsking, env.since_after]
    rfl
  | succ k ih =>
    have before := (env.suffix_beforeAsking w r t k).trans (env.suffix_after _ r)
    have slept : env.after (env.beforeAsking w r t k) r <:+ env.beforeAsking w r t (k + 1) :=
      List.suffix_cons _ _
    rw [Transcript.since_trans (before.trans slept) (env.suffix_after _ r), env.since_after,
      Transcript.since_trans before slept, beforeAsking, Transcript.since_cons,
      Transcript.exchanges_append, Transcript.exchanges_append, ih, List.append_assoc,
      @List.range_succ (k + 1), List.map_append]
    rfl

end Environment

namespace Reply

variable {α : Type}

/-- **An answer that leaves a wait open**: something is missing, or a value is read of it that is
not accepted. -/
def LeavesOpen (d : Json.Decoder α) (accept : α → Bool) (reply : Reply) : Prop :=
  reply.isMissing = true ∨ ∃ v, reply.Yields d v ∧ accept v = false

theorem isDecisive_read_eq_false_iff {d : Json.Decoder α} {accept : α → Bool} {reply : Reply} :
    Outcome.isDecisive accept (reply.read d) = false ↔ reply.LeavesOpen d accept := by
  unfold LeavesOpen
  cases answer : reply.read d with
  | error f =>
    have none (v : α) : ¬ reply.Yields d v := by
      rw [← read_eq_ok_iff, answer]
      nofun
    rw [Outcome.isDecisive, (fault_of_read answer).2, Bool.not_eq_false']
    simp [none]
  | ok v =>
    have yields := read_eq_ok_iff.1 answer
    have only {v' : α} (other : reply.Yields d v') : v = v' :=
      Except.ok.inj (answer.symm.trans (read_eq_ok_iff.2 other))
    have present := (isRefusal_of_isAccepted (isAccepted_of_yields yields)).2
    rw [Outcome.isDecisive, present]
    constructor
    · exact fun refused => .inr ⟨v, yields, refused⟩
    · rintro (missing | ⟨v', other, refused⟩)
      · cases missing
      · rwa [only other]

end Reply

/-! ### Waiting for an answer -/

namespace RestClient

variable {α : Type} {c : RestClient} {d : Json.Decoder α} {path : String} {accept : α → Bool}
  {shown : α → String} {w : WaitSpec} {env : Environment} {t t' u : Transcript} {r : Request}
  {k : Nat}

/-- **How a wait comes to what it finds.**  It is one that can make progress; the request can be
sent, and is sent until an answer is found good, after answers that left the wait open while there
was time left; there is nothing but that. -/
def Finds (c : RestClient) (path : String) (w : WaitSpec) (env : Environment) (t : Transcript)
    (leavesOpen good : Reply → Prop) (t' : Transcript) : Prop :=
  w.validate = .ok () ∧ ∃ r k, c.request "GET" path .empty = .ok r ∧
    (∀ j < k, leavesOpen (env.answerTo w r t j) ∧ env.answeredIn w r t j < w.timeout) ∧
    good (env.answerTo w r t k) ∧ t' = env.after (env.beforeAsking w r t k) r

theorem get_of_request (sent : c.request "GET" path .empty = .ok r) (u : Transcript) :
    c.get d path env u = ((env.respond u r).read d, env.after u r) := by
  rw [get_apply, sent]

/-- What has passed once a question is answered, is what the clock says. -/
theorem passed_get (sent : c.request "GET" path .empty = .ok r) (k : Nat) :
    letI := env.timeline
    WaitSpec.passed (c.get d path env) (env.clock (env.beforeAsking w r t k) - env.clock t)
      (env.beforeAsking w r t k) = env.answeredIn w r t k := by
  have before := env.clock_le_beforeAsking w r t k
  show _ + (env.clock (c.get d path env _).2 - env.clock _) = _
  rw [get_of_request sent, Environment.answeredIn, Environment.clock_after]
  omega

/-- **Evaluations in vain are answers that leave the wait open**, while there is time left. -/
theorem inVain_get_iff (sent : c.request "GET" path .empty = .ok r) {elapsed : Nat} :
    letI := env.timeline
    w.InVain (c.get d path env) accept t k elapsed u ↔
      (elapsed = env.clock (env.beforeAsking w r t k) - env.clock t ∧
        u = env.beforeAsking w r t k) ∧
      ∀ j < k, (env.answerTo w r t j).LeavesOpen d accept ∧
        env.answeredIn w r t j < w.timeout := by
  let := env.timeline
  constructor
  · intro vain
    induction vain with
    | start =>
      exact ⟨⟨(Nat.sub_self _).symm, rfl⟩, fun j none => absurd none (Nat.not_lt_zero j)⟩
    | @again k elapsed u sofar undecided early ih =>
      obtain ⟨⟨rfl, rfl⟩, earlier⟩ := ih
      rw [get_of_request sent, Reply.isDecisive_read_eq_false_iff] at undecided
      rw [passed_get sent] at early ⊢
      rw [get_of_request sent]
      exact ⟨⟨(env.clock_beforeAsking_succ w r t k).symm, rfl⟩,
        Nat.forall_lt_succ_right.2 ⟨earlier, undecided, early⟩⟩
  · rintro ⟨⟨rfl, rfl⟩, earlier⟩
    induction k with
    | zero =>
      rw [Environment.beforeAsking, Nat.sub_self]
      exact .start
    | succ k ih =>
      obtain ⟨earlier, undecided, early⟩ := Nat.forall_lt_succ_right.1 earlier
      have next := (ih earlier).again
        (by rwa [get_of_request sent, Reply.isDecisive_read_eq_false_iff])
        (by rwa [passed_get sent])
      rw [passed_get sent, get_of_request sent] at next
      rw [env.clock_beforeAsking_succ]
      exact next

/-- **What a wait for a value comes to was read of the last answer.** -/
theorem waitForValue_get_eq_ok_iff {v : α} :
    Session.waitForValue w (c.get d path) accept shown env t = (.ok v, t') ↔
      c.Finds path w env t (fun reply => reply.LeavesOpen d accept)
        (fun reply => reply.Yields d v ∧ accept v = true) t' := by
  let := env.timeline
  unfold Session.waitForValue Finds
  cases valid : w.validate with
  | error f =>
    rw [WaitSpec.waitForValue_of_error valid]
    exact iff_of_false nofun fun found => nomatch found.1
  | ok _ =>
    rw [WaitSpec.waitForValue_eq_iff valid, eq_self, true_and]
    cases sent : c.request "GET" path .empty with
    | error f =>
      have fails (u : Transcript) : c.get d path env u = (.error f, u) := by
        rw [get_apply, sent]
      refine iff_of_false ?_ (by simp)
      rintro ⟨k, elapsed, u, -, ⟨-, run⟩ | ⟨-, -, run⟩⟩
      · rw [fails] at run
        cases run
      · cases run
    | ok r =>
      simp only [inVain_get_iff sent]
      constructor
      · rintro ⟨k, _, _, ⟨⟨rfl, rfl⟩, earlier⟩, ⟨decided, run⟩ | ⟨-, -, run⟩⟩
        · rw [get_of_request sent, Prod.mk.injEq] at run
          obtain ⟨answer, rfl⟩ := run
          rw [get_of_request sent, answer] at decided
          exact ⟨r, k, rfl, earlier, ⟨Reply.read_eq_ok_iff.1 answer, decided⟩, rfl⟩
        · cases run
      · rintro ⟨_, k, same, earlier, ⟨yields, accepted⟩, rfl⟩
        cases same
        have answer := Reply.read_eq_ok_iff.2 yields
        refine ⟨k, _, _, ⟨⟨rfl, rfl⟩, earlier⟩, .inl ⟨?_, ?_⟩⟩
        · rw [get_of_request sent]
          exact (congrArg (Outcome.isDecisive accept) answer).trans accepted
        · rw [get_of_request sent]
          exact congrArg (·, _) answer

theorem finds_congr {leavesOpen leavesOpen' good good' : Reply → Prop}
    (earlier : ∀ reply, leavesOpen reply ↔ leavesOpen' reply)
    (last : ∀ reply, good reply ↔ good' reply) :
    c.Finds path w env t leavesOpen good t' ↔ c.Finds path w env t leavesOpen' good' t' := by
  simp only [Finds, earlier, last]

theorem exists_finds_iff {β : Type} {leavesOpen : Reply → Prop} {good : β → Reply → Prop} :
    (∃ b, c.Finds path w env t leavesOpen (good b) t') ↔
      c.Finds path w env t leavesOpen (fun reply => ∃ b, good b reply) t' := by
  constructor
  · rintro ⟨b, valid, r, k, sent, earlier, last, ended⟩
    exact ⟨valid, r, k, sent, earlier, ⟨b, last⟩, ended⟩
  · rintro ⟨valid, r, k, sent, earlier, ⟨b, last⟩, ended⟩
    exact ⟨b, valid, r, k, sent, earlier, last, ended⟩

end RestClient

/-! ### Faults of a wait -/

/-- The fault that is made of an answer is no failed check. -/
theorem Fault.kind_ofResponse (status : Nat) (body : String) :
    (ofResponse status body).kind ≠ .expectationFailed := by
  unfold ofResponse
  simp only
  split_ifs <;> nofun

theorem Reply.kind_of_outcome {reply : Reply} {f : Fault} (failed : reply.outcome = .error f) :
    f.kind ≠ .expectationFailed := by
  cases reply with
  | unreachable =>
    cases failed
    nofun
  | dropped =>
    cases failed
    nofun
  | answered r =>
    unfold outcome RestClient.requireSuccess at failed
    simp only at failed
    split at failed
    · cases failed
    · cases failed
      exact Fault.kind_ofResponse r.status r.body

theorem kind_of_decodeBody {α : Type} {d : Json.Decoder α} {body : String} {f : Fault}
    (failed : decodeBody d body = .error f) : f.kind ≠ .expectationFailed := by
  unfold decodeBody at failed
  simp only at failed
  split at failed
  · cases failed
  · cases failed
    nofun

theorem Reply.kind_of_read {α : Type} {d : Json.Decoder α} {reply : Reply} {f : Fault}
    (failed : reply.read d = .error f) : f.kind ≠ .expectationFailed := by
  unfold read at failed
  cases taken : reply.outcome with
  | error f' =>
    rw [taken] at failed
    cases failed
    exact kind_of_outcome taken
  | ok r =>
    rw [taken] at failed
    exact kind_of_decodeBody failed

theorem WaitSpec.kind_of_validate {w : WaitSpec} {f : Fault} (refused : w.validate = .error f) :
    f.kind ≠ .expectationFailed := by
  unfold validate at refused
  split_ifs at refused <;> cases refused <;> nofun

theorem kind_of_resolveBelow {base : Url} {path : String} {f : Fault}
    (failed : resolveBelow base path = .error f) : f.kind ≠ .expectationFailed := by
  unfold resolveBelow at failed
  split at failed
  · cases failed
  · cases failed
    nofun

namespace RestClient

variable {α : Type} {c : RestClient} {d : Json.Decoder α} {path : String} {accept : α → Bool}
  {shown : α → String} {w : WaitSpec} {env : Environment} {t : Transcript} {f : Fault}

theorem kind_of_authorization (failed : c.authorization = .error f) :
    f.kind ≠ .expectationFailed := by
  unfold authorization at failed
  split at failed
  · cases failed
  · split at failed
    · cases failed
    · cases failed
      nofun

theorem kind_of_request {method : String} {body : Body}
    (failed : c.request method path body = .error f) : f.kind ≠ .expectationFailed := by
  unfold request at failed
  split at failed
  · rename_i unresolved
    cases failed
    exact kind_of_resolveBelow unresolved
  · rename_i unauthorized
    cases failed
    exact kind_of_authorization unauthorized
  · split at failed
    · cases failed
    · cases failed
      nofun

/-- A question that fails is no failed check. -/
theorem kind_of_get (failed : (c.get d path env t).1 = .error f) :
    f.kind ≠ .expectationFailed := by
  rw [get_apply] at failed
  cases sent : c.request "GET" path .empty with
  | error f' =>
    rw [sent] at failed
    cases failed
    exact kind_of_request sent
  | ok r =>
    rw [sent] at failed
    exact Reply.kind_of_read failed

/-- **A wait for an answer fails no check.** -/
theorem kind_of_waitForValue_get
    (failed : (Session.waitForValue w (c.get d path) accept shown env t).1 = .error f) :
    f.kind ≠ .expectationFailed := by
  let := env.timeline
  unfold Session.waitForValue at failed
  cases valid : w.validate with
  | error f' =>
    rw [WaitSpec.waitForValue_of_error valid] at failed
    cases failed
    exact WaitSpec.kind_of_validate valid
  | ok _ =>
    generalize run : w.waitForValue (c.get d path env) accept shown t = out at failed
    obtain ⟨o, t'⟩ := out
    obtain ⟨k, elapsed, u, -, ⟨-, run⟩ | ⟨-, -, run⟩⟩ :=
      (WaitSpec.waitForValue_eq_iff valid o t').1 run
    · exact kind_of_get ((congrArg Prod.fst run).trans failed)
    · cases failed.symm.trans (congrArg Prod.fst run).symm
      nofun

end RestClient

/-! ### Runs -/

namespace RestClient

/-- The runs that an answer lists. -/
def records : Json.Decoder (List RunRecord) := Json.Decoder.list RunRecord.decoder

variable (c : RestClient) (p : ProgramId) (status : RunStatus) (w : WaitSpec) (env : Environment)
  (t : Transcript)

/-- A wait for some listing of runs. -/
def waitForListing (accept : List RunRecord → Bool) : Session (List RunRecord) :=
  Session.waitForValue w (c.get records (runsPath p (some status))) accept
    (Text.shownList RunRecord.shown)

/-- **What a wait for a listing comes to.** -/
theorem waitForListing_eq_ok_iff {accept : List RunRecord → Bool} {runs : List RunRecord}
    {t' : Transcript} :
    c.waitForListing p status w accept env t = (.ok runs, t') ↔
      c.Finds (runsPath p (some status)) w env t
        (fun reply => (∃ body, reply = .answered ⟨404, body⟩) ∨
          ∃ listed, reply.Yields records listed ∧ accept listed = false)
        (fun reply => reply.Yields records runs ∧ accept runs = true) t' := by
  refine waitForValue_get_eq_ok_iff.trans (finds_congr (fun reply => ?_) fun _ => Iff.rfl)
  rw [Reply.LeavesOpen, Reply.isMissing_iff]

/-- **A wait for a run fails as the wait for a listing does**, and in no other way: of a listing
that is not empty there is a first run. -/
theorem waitForRun_cases :
    let listed := c.waitForListing p status w (fun runs => !runs.isEmpty) env t
    (∃ f t', listed = (.error f, t') ∧ c.waitForRun p status w env t = (.error f, t')) ∨
      ∃ run rest t', listed = (.ok (run :: rest), t') ∧
        c.waitForRun p status w env t = (.ok run, t') := by
  intro listed
  have listing : Session.waitForValue w (c.programRuns p (some status)) (fun runs => !runs.isEmpty)
      (Text.shownList RunRecord.shown) env t = listed := rfl
  rw [waitForRun, Program.bind_apply, listing]
  rcases ended : listed with ⟨f | _ | ⟨run, rest⟩, t'⟩
  · exact .inl ⟨f, t', rfl, rfl⟩
  · obtain ⟨-, r, k, -, -, ⟨-, accepted⟩, -⟩ :=
      (c.waitForListing_eq_ok_iff p status w env t).1 ended
    cases accepted
  · exact .inr ⟨run, rest, t', rfl, rfl⟩

theorem waitForRun_eq_ok_iff {run : RunRecord} {t' : Transcript} :
    c.waitForRun p status w env t = (.ok run, t') ↔ ∃ rest,
      c.waitForListing p status w (fun runs => !runs.isEmpty) env t = (.ok (run :: rest), t') := by
  rcases c.waitForRun_cases p status w env t with
    ⟨f, u, listed, ended⟩ | ⟨run', rest', u, listed, ended⟩
  · rw [listed, ended]
    exact iff_of_false nofun fun ⟨_, other⟩ => nomatch other
  · rw [listed, ended]
    constructor
    · intro same
      cases same
      exact ⟨rest', rfl⟩
    · rintro ⟨rest, same⟩
      cases same
      rfl

/-- **Waits for runs come to what was listed.**  A wait for a run comes to the first of the first
listing that is not empty, after listings that were, or a 404 in their place; it fails no check of
its own.  A wait for a number of runs comes to one listing of that number, after listings of other
numbers, or a 404.  Nothing is sent but the request for them. -/
theorem waitForRun_returns_listed :
    let path := runsPath p (some status)
    let missing (reply : Reply) : Prop := ∃ body, reply = .answered ⟨404, body⟩
    (∀ run t', c.waitForRun p status w env t = (.ok run, t') ↔
      c.Finds path w env t (fun reply => missing reply ∨ reply.Yields records [])
        (fun reply => ∃ rest, reply.Yields records (run :: rest)) t') ∧
    (∀ reason, (c.waitForRun p status w env t).1 ≠ .error (.expectation reason)) ∧
    (∀ count runs t', c.waitForRuns p status count w env t = (.ok runs, t') ↔
      c.Finds path w env t
        (fun reply => missing reply ∨ ∃ other, reply.Yields records other ∧ other.length ≠ count)
        (fun reply => reply.Yields records runs ∧ runs.length = count) t') ∧
    ∀ r k, ((env.after (env.beforeAsking w r t k) r).since t).exchanges =
      (List.range (k + 1)).map fun j => (r, env.answerTo w r t j) := by
  intro path missing
  refine ⟨?_, ?_, ?_, fun r k => env.exchanges_answerTo w r t k⟩
  · intro run t'
    simp only [waitForRun_eq_ok_iff, waitForListing_eq_ok_iff]
    refine exists_finds_iff.trans (finds_congr (fun reply => ?_) fun reply => ?_)
    · simp only [Bool.not_eq_false', List.isEmpty_iff, exists_eq_right]
      rfl
    · simp
  · intro reason failed
    rcases c.waitForRun_cases p status w env t with ⟨f, u, listed, ended⟩ | ⟨_, _, u, -, ended⟩
    · rw [ended] at failed
      cases failed
      exact kind_of_waitForValue_get (congrArg Prod.fst listed) rfl
    · rw [ended] at failed
      cases failed
  · intro count runs t'
    refine (c.waitForListing_eq_ok_iff p status w env t).trans
      (finds_congr (fun reply => ?_) fun reply => ?_)
    · simp only [beq_eq_false_iff_ne]
      rfl
    · rw [beq_iff_eq]

end RestClient

end AccessHarness
