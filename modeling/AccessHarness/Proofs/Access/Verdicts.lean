import AccessHarness.Proofs.Access.StorePlatform
import AccessHarness.Routes.Data
import AccessHarness.Routes.Namespace
import AccessHarness.Scenario.Checks
import Mathlib.Data.List.Infix

/-!
# Verdicts and answers

Whether somebody may do something is read off the answer to one request.

* `Reply.isRefusal`, `Reply.isMissing`, `Reply.Yields` — what an answer says, in terms of its
  status and its body alone.
* `Reply.Decides` — the three classes of answers, and the probe that tells them apart.
* `RestClient.get_verdict` — every check of a verdict passes for one of these classes and for no
  other.

### What is load-bearing

**The classes are disjoint because of the order of the cases.**  A body is looked at only after
the status was found to be that of a server error, so a marker in the answer to a bad request
says nothing (`Fault.isAuthorization_ofResponse`).

**A fault carries a text, not a body.**  The text is the body trimmed, or a standard phrase where
the body is blank, and markers are sought in the text in lower case.  This comes to the same as
seeking them in the body: no marker begins or ends with a blank
(`Text.occursIn_lower_trimChars`), blanks have no case, and no standard phrase contains a marker
(`Fault.carriesRefusal_eq_false_of_mem_serverErrorTexts`).
-/

namespace AccessHarness

/-! ### Searching a text that was trimmed -/

namespace Text

theorem occursIn_iff_infix {sought l : List Char} : occursIn sought l = true ↔ sought <:+: l := by
  rw [occursIn_iff]
  constructor
  · rintro ⟨before, after, rfl⟩
    exact ⟨before, after, rfl⟩
  · rintro ⟨before, after, rfl⟩
    exact ⟨before, after, rfl⟩

/-- What cannot begin in the first part of a list is in the second. -/
theorem infix_of_infix_append_left {a : Char} {sought front l : List Char}
    (h : a :: sought <:+: front ++ l) (begins : a ∉ front) : a :: sought <:+: l := by
  induction front with
  | nil => exact h
  | cons c front ih =>
    rw [List.mem_cons, not_or] at begins
    rcases List.infix_cons_iff.1 h with here | later
    · exact absurd (List.cons_prefix_cons.1 here).1 begins.1
    · exact ih later begins.2

/-- What cannot end in the second part of a list is in the first. -/
theorem infix_of_infix_append_right {a : Char} {sought l back : List Char}
    (h : sought ++ [a] <:+: l ++ back) (ends : a ∉ back) : sought ++ [a] <:+: l := by
  rw [← List.reverse_infix] at h ⊢
  rw [List.reverse_append, List.reverse_append] at h
  rw [List.reverse_append]
  exact infix_of_infix_append_left h fun mem => ends (List.mem_reverse.1 mem)

/-- Trimming takes blanks away at either end. -/
theorem exists_trimChars (l : List Char) :
    ∃ front back, l = front ++ trimChars l ++ back ∧ (∀ c ∈ front, isBlankChar c = true) ∧
      ∀ c ∈ back, isBlankChar c = true := by
  let rest := l.dropWhile isBlankChar
  refine ⟨l.takeWhile isBlankChar, (rest.reverse.takeWhile isBlankChar).reverse, ?_, ?_, ?_⟩
  · have back : trimChars l ++ (rest.reverse.takeWhile isBlankChar).reverse = rest := by
      unfold trimChars dropEndWhile
      rw [← List.reverse_append, List.takeWhile_append_dropWhile, List.reverse_reverse]
    rw [List.append_assoc, back, List.takeWhile_append_dropWhile]
  · exact fun c mem => List.all_eq_true.1 List.all_takeWhile c mem
  · exact fun c mem => List.all_eq_true.1 List.all_takeWhile c (List.mem_reverse.1 mem)

/-- No blank has a case. -/
theorem lowerChar_of_isBlankChar {c : Char} (h : isBlankChar c = true) : lowerChar c = [c] := by
  -- blanks lie below the letters or above them, and are none of the two letters outside ASCII
  have place : c.toNat ≤ 0x20 ∨ 0x85 ≤ c.toNat ∧ c.toNat ≠ 0x130 ∧ c.toNat ≠ 0x212a := by
    simp only [isBlankChar, blankRanges, List.any_cons, List.any_nil, Bool.or_false,
      Bool.or_eq_true, Bool.and_eq_true, decide_eq_true_eq] at h
    omega
  have notKelvin : c ≠ '\u212a' := by
    rintro rfl
    exact absurd place (by decide)
  have notDotted : c ≠ '\u0130' := by
    rintro rfl
    exact absurd place (by decide)
  have same : c.toLower = c := by
    refine dif_neg ?_
    rintro ⟨lo, hi⟩
    have lo' : 65 ≤ c.toNat := lo
    have hi' : c.toNat ≤ 90 := hi
    omega
  rw [lowerChar, if_neg notKelvin, if_neg notDotted, same]

theorem lower_of_all_blank {l : List Char} (h : ∀ c ∈ l, isBlankChar c = true) : lower l = l := by
  induction l with
  | nil => rfl
  | cons c l ih =>
    rw [lower, List.flatMap_cons, lowerChar_of_isBlankChar (h c List.mem_cons_self)]
    exact congrArg (c :: ·) (ih fun c' mem => h c' (List.mem_cons_of_mem c mem))

theorem lower_append (l l' : List Char) : lower (l ++ l') = lower l ++ lower l' :=
  List.flatMap_append

/-- Whether a text neither begins nor ends with a blank; an empty one does not count. -/
def isTrimmed (l : List Char) : Bool :=
  l.head?.any (fun c => !isBlankChar c) && l.getLast?.any fun c => !isBlankChar c

theorem exists_of_isTrimmed {l : List Char} (h : isTrimmed l = true) :
    (∃ a rest, l = a :: rest ∧ isBlankChar a = false) ∧
      ∃ rest a, l = rest ++ [a] ∧ isBlankChar a = false := by
  simp only [isTrimmed, Bool.and_eq_true, Option.any_eq_true, List.head?_eq_some_iff,
    List.getLast?_eq_some_iff, Bool.not_eq_true'] at h
  obtain ⟨⟨a, ⟨rest, head⟩, begins⟩, b, ⟨rest', last⟩, ends⟩ := h
  exact ⟨⟨a, rest, head, begins⟩, rest', b, last, ends⟩

/-- **Trimming a text hides nothing from a search for a trimmed one.** -/
theorem occursIn_lower_trimChars {sought : List Char} (h : isTrimmed sought = true)
    (l : List Char) : occursIn sought (lower (trimChars l)) = occursIn sought (lower l) := by
  obtain ⟨front, back, cut, hfront, hback⟩ := exists_trimChars l
  have parts : lower l = front ++ lower (trimChars l) ++ back := by
    conv => lhs; rw [cut]
    rw [lower_append, lower_append, lower_of_all_blank hfront, lower_of_all_blank hback]
  rw [Bool.eq_iff_iff, occursIn_iff_infix, occursIn_iff_infix, parts]
  constructor
  · exact fun inside => inside.trans ⟨front, back, rfl⟩
  · intro inside
    obtain ⟨⟨a, rest, rfl, begins⟩, rest', a', same, ends⟩ := exists_of_isTrimmed h
    have short : a :: rest <:+: front ++ lower (trimChars l) := by
      rw [same] at inside ⊢
      refine infix_of_infix_append_right inside ?_
      intro mem
      rw [hback a' mem] at ends
      cases ends
    refine infix_of_infix_append_left short ?_
    intro mem
    rw [hfront a mem] at begins
    cases begins

end Text

/-! ### Which answers are refusals -/

namespace Fault

/-- No marker begins or ends with a blank. -/
theorem isTrimmed_of_mem_refusalMarkers :
    ∀ m ∈ refusalMarkers, Text.isTrimmed m.toList = true := by
  decide

theorem carriesRefusal_trim (s : String) : carriesRefusal (Text.trim s) = carriesRefusal s := by
  unfold carriesRefusal Text.trim
  rw [String.toList_ofList, Bool.eq_iff_iff, List.any_eq_true, List.any_eq_true]
  refine exists_congr fun m => and_congr_right ?_
  intro marker
  rw [Text.occursIn_lower_trimChars (isTrimmed_of_mem_refusalMarkers m marker)]

/-- What a server error without a text is called. -/
def serverErrorTexts : List String :=
  ["Internal Server Error", "Not Implemented", "Bad Gateway", "Service Unavailable",
   "Gateway Timeout", "HTTP Version Not Supported", "Variant Also Negotiates",
   "Insufficient Storage", "Loop Detected", "Not Extended", "Network Authentication Required",
   "no response body"]

theorem reason_mem_serverErrorTexts {status : Nat} (h : Status.isServerError status = true) :
    (Status.reason? status).getD "no response body" ∈ serverErrorTexts := by
  unfold Status.reason?
  split <;> simp_all [Status.isServerError, serverErrorTexts]

/-- No standard phrase says that somebody was refused. -/
theorem carriesRefusal_eq_false_of_mem_serverErrorTexts :
    ∀ text ∈ serverErrorTexts, carriesRefusal text = false := by
  decide +kernel

/-- **A marker in the text of a server error stands in its body.**  Where the body is blank,
neither has one. -/
theorem carriesRefusal_responseText {status : Nat} (h : Status.isServerError status = true)
    (body : String) : carriesRefusal (responseText status body) = carriesRefusal body := by
  unfold responseText
  split
  · rename_i blank
    rw [carriesRefusal_eq_false_of_mem_serverErrorTexts _ (reason_mem_serverErrorTexts h),
      ← carriesRefusal_trim, (Text.isBlank_iff_trim_eq_empty body).1 blank]
    decide
  · exact carriesRefusal_trim body

/-- **Exactly when an answer that is no success is an authorization fault.** -/
theorem isAuthorization_ofResponse (status : Nat) (body : String) :
    (ofResponse status body).isAuthorization = true ↔
      status = 403 ∨ (Status.isServerError status = true ∧ carriesRefusal body = true) := by
  simp only [ofResponse, isAuthorization]
  split_ifs with h401 h403 h404 h409 h400 marked
  · simp [h401, kind, Status.isServerError]
  · simp [h403, kind]
  · simp [h404, kind, Status.isServerError]
  · simp [h409, kind, Status.isServerError]
  · simp [h400, kind, Status.isServerError]
  · rw [Bool.and_eq_true] at marked
    rw [carriesRefusal_responseText marked.1] at marked
    exact iff_of_true rfl (.inr marked)
  · refine iff_of_false (by simp [kind]) ?_
    rintro (forbidden | ⟨server, refusal⟩)
    · exact h403 forbidden
    · rw [server, carriesRefusal_responseText server, refusal] at marked
      exact marked rfl

/-- **Exactly when it says that something is missing.** -/
theorem isNotFound_ofResponse (status : Nat) (body : String) :
    (ofResponse status body).isNotFound = true ↔ status = 404 := by
  simp only [ofResponse, isNotFound]
  split_ifs <;> simp_all [kind]

end Fault

/-! ### What an answer is worth -/

namespace Reply

variable {α : Type}

/-- **An answer that refuses the caller**: it forbids, or it is a server error with a marker in
its body. -/
def isRefusal : Reply → Bool
  | .answered r =>
    r.status == 403 || (Status.isServerError r.status && Fault.carriesRefusal r.body)
  | _ => false

/-- An answer that says something is missing. -/
def isMissing : Reply → Bool
  | .answered r => r.status == 404
  | _ => false

/-- **An answer from which a value is read.**  A blank body is read as `null`. -/
def Yields (d : Json.Decoder α) (v : α) : Reply → Prop
  | .answered r => Status.isSuccess r.status = true ∧
      Json.decodeDocument d (if Text.isBlank r.body then ['n', 'u', 'l', 'l'] else r.body.toList) =
        some v
  | _ => False

/-- **Exactly when an answer says that something is missing.** -/
theorem isMissing_iff {reply : Reply} :
    reply.isMissing = true ↔ ∃ body, reply = .answered ⟨404, body⟩ := by
  constructor
  · intro missing
    cases reply with
    | unreachable => cases missing
    | dropped => cases missing
    | answered r =>
      obtain ⟨status, body⟩ := r
      have notFound : status = 404 := beq_iff_eq.1 missing
      exact ⟨body, by rw [notFound]⟩
  · rintro ⟨body, rfl⟩
    rfl

theorem isSuccess_eq_false_of_isServerError {status : Nat}
    (h : Status.isServerError status = true) : Status.isSuccess status = false := by
  simp only [Status.isServerError, Status.isSuccess, Bool.and_eq_true, Bool.and_eq_false_iff,
    decide_eq_true_eq, decide_eq_false_iff_not] at *
  omega

/-- A refusal is not carried out. -/
theorem isAccepted_eq_false_of_isRefusal {reply : Reply} (h : reply.isRefusal = true) :
    reply.isAccepted = false := by
  cases reply with
  | unreachable => rfl
  | dropped => rfl
  | answered r =>
    simp only [isRefusal, Bool.or_eq_true, beq_iff_eq, Bool.and_eq_true] at h
    rcases h with forbidden | ⟨server, -⟩
    · simp [isAccepted, forbidden, Status.isSuccess]
    · exact isSuccess_eq_false_of_isServerError server

/-- What a client makes of an answer that is no success: an authorization fault of a refusal,
a missing thing of a 404, and some other fault of anything else. -/
theorem outcome_of_rejection {reply : Reply} (h : reply.isAccepted = false) :
    ∃ f, reply.outcome = .error f ∧ f.isAuthorization = reply.isRefusal ∧
      f.isNotFound = reply.isMissing := by
  cases reply with
  | unreachable => exact ⟨.transport, rfl, rfl, rfl⟩
  | dropped => exact ⟨.transport, rfl, rfl, rfl⟩
  | answered r =>
    have failure : Status.isSuccess r.status = false := h
    refine ⟨.ofResponse r.status r.body, ?_, ?_, ?_⟩
    · simp [outcome, RestClient.requireSuccess, failure]
    · rw [Bool.eq_iff_iff, Fault.isAuthorization_ofResponse]
      simp [isRefusal]
    · rw [Bool.eq_iff_iff, Fault.isNotFound_ofResponse]
      simp [isMissing]

/-- **The fault that is made of an answer says which class the answer is in.** -/
theorem fault_of_outcome {f : Fault} {reply : Reply} (h : reply.outcome = .error f) :
    f.isAuthorization = reply.isRefusal ∧ f.isNotFound = reply.isMissing := by
  cases accepted : reply.isAccepted with
  | false =>
    obtain ⟨f', rejected, kinds⟩ := outcome_of_rejection accepted
    rw [rejected] at h
    cases h
    exact kinds
  | true =>
    obtain ⟨r, -, taken⟩ := outcome_of_isAccepted accepted
    rw [taken] at h
    cases h

theorem read_eq_ok_iff {d : Json.Decoder α} {v : α} {reply : Reply} :
    reply.read d = .ok v ↔ reply.Yields d v := by
  cases reply with
  | unreachable => exact iff_of_false nofun id
  | dropped => exact iff_of_false nofun id
  | answered r =>
    unfold read Yields
    cases success : Status.isSuccess r.status with
    | false =>
      have refused : (answered r).isAccepted = false := success
      obtain ⟨f, rejected⟩ := outcome_of_not_isAccepted refused
      rw [rejected]
      refine iff_of_false nofun ?_
      rintro ⟨succeeded, -⟩
      rw [success] at succeeded
      cases succeeded
    | true =>
      have taken : (answered r).outcome = .ok r := if_pos success
      simp only [taken, Except.bind, decodeBody, success, true_and]
      cases Json.decodeDocument d _ <;> simp

/-- A success is neither a refusal nor does it say that something is missing. -/
theorem isRefusal_of_isAccepted {reply : Reply} (h : reply.isAccepted = true) :
    reply.isRefusal = false ∧ reply.isMissing = false := by
  constructor
  · cases refusal : reply.isRefusal with
    | false => rfl
    | true =>
      rw [isAccepted_eq_false_of_isRefusal refusal] at h
      cases h
  · cases reply with
    | unreachable => rfl
    | dropped => rfl
    | answered r =>
      refine beq_false_of_ne ?_
      intro missing
      rw [isAccepted, missing] at h
      exact absurd h (by decide)

theorem isAccepted_of_outcome {reply : Reply} {r : Response} (h : reply.outcome = .ok r) :
    reply.isAccepted = true := by
  cases accepted : reply.isAccepted with
  | true => rfl
  | false =>
    obtain ⟨f, rejected⟩ := outcome_of_not_isAccepted accepted
    rw [rejected] at h
    cases h

/-- So does the fault of reading it. -/
theorem fault_of_read {d : Json.Decoder α} {f : Fault} {reply : Reply}
    (h : reply.read d = .error f) :
    f.isAuthorization = reply.isRefusal ∧ f.isNotFound = reply.isMissing := by
  unfold read at h
  cases taken : reply.outcome with
  | error f' =>
    rw [taken] at h
    cases h
    exact fault_of_outcome taken
  | ok r =>
    obtain ⟨refusal, missing⟩ := isRefusal_of_isAccepted (isAccepted_of_outcome taken)
    rw [refusal, missing]
    -- the one fault of a success is that it cannot be decoded
    rw [taken] at h
    simp only [Except.bind, decodeBody] at h
    split at h <;> cases h
    exact ⟨rfl, rfl⟩

theorem isAccepted_of_yields {d : Json.Decoder α} {v : α} {reply : Reply}
    (h : reply.Yields d v) : reply.isAccepted = true := by
  cases reply with
  | unreachable => exact h.elim
  | dropped => exact h.elim
  | answered r => exact h.1

/-- **The three classes of answers**: a probe of an operation that reads one answer tells in
which of them it is. -/
structure Decides (d : Json.Decoder α) (reply : Reply) (probe : Probe α) : Prop where
  allowed : ∀ v, probe = .allowed v ↔ reply.Yields d v
  denied : (∃ f, probe = .denied f) ↔ reply.isRefusal = true
  failed : (∃ f, probe = .failed f) ↔ (∀ v, ¬ reply.Yields d v) ∧ reply.isRefusal = false

theorem decides_read (d : Json.Decoder α) (reply : Reply) :
    reply.Decides d (.ofOutcome (reply.read d)) := by
  cases h : reply.read d with
  | ok v =>
    have yields := read_eq_ok_iff.1 h
    have refusal := (isRefusal_of_isAccepted (isAccepted_of_yields yields)).1
    have only (a : α) : reply.Yields d a ↔ v = a := by
      rw [← read_eq_ok_iff, h, Except.ok.injEq]
    refine ⟨fun a => ?_, ?_, ?_⟩
    · rw [only, Probe.ofOutcome, Probe.allowed.injEq]
    · rw [refusal]
      simp [Probe.ofOutcome]
    · exact iff_of_false (by simp [Probe.ofOutcome]) fun nothing => nothing.1 v yields
  | error f =>
    have nothing (v : α) : ¬ reply.Yields d v := by
      rw [← read_eq_ok_iff, h]
      simp
    have refusal := (fault_of_read h).1
    cases authorization : f.isAuthorization with
    | true =>
      have denied : Probe.ofOutcome (.error f : Outcome α) = .denied f := if_pos authorization
      rw [authorization] at refusal
      rw [denied]
      exact ⟨fun v => iff_of_false (by simp) (nothing v), iff_of_true ⟨f, rfl⟩ refusal.symm,
        iff_of_false (by simp) fun other => by simp [← refusal] at other⟩
    | false =>
      have failed : Probe.ofOutcome (.error f : Outcome α) = .failed f :=
        if_neg (ne_true_of_eq_false authorization)
      rw [authorization] at refusal
      rw [failed]
      exact ⟨fun v => iff_of_false (by simp) (nothing v),
        iff_of_false (by simp) (ne_true_of_eq_false refusal.symm),
        iff_of_true ⟨f, rfl⟩ ⟨nothing, refusal.symm⟩⟩

end Reply

/-! ### What a check of a verdict asks for -/

section Checks

variable {α : Type} {probe : Probe α}

theorem Probe.ofOutcome_eq_denied_iff {o : Outcome α} {f : Fault} :
    ofOutcome o = .denied f ↔ o = .error f ∧ f.isAuthorization = true := by
  cases o with
  | ok v => simp [ofOutcome]
  | error f' =>
    rw [ofOutcome, Except.error.injEq]
    split
    · rename_i authorization
      rw [denied.injEq]
      exact ⟨fun same => ⟨same, same ▸ authorization⟩, And.left⟩
    · rename_i other
      refine iff_of_false (by simp) ?_
      rintro ⟨rfl, authorization⟩
      exact other authorization

theorem Probe.requireDenied_eq_ok_iff (p : Principal) (e : EntityId) (a : Action) :
    probe.requireDenied p e a = .ok () ↔ ∃ f, probe = .denied f := by
  cases probe <;> simp [requireDenied]

theorem Probe.requireAllowed_eq_ok_iff (p : Principal) (e : EntityId) (a : Action) {v : α} :
    probe.requireAllowed p e a = .ok v ↔ probe = .allowed v := by
  cases probe <;> simp [requireAllowed]

theorem Expectation.verify_denied_eq_ok_iff (missing : List Privilege) (subject : String)
    {v : Option α} :
    (denied missing).verify subject probe = .ok v ↔ v = none ∧ ∃ f, probe = .denied f := by
  cases probe <;> simp [verify, eq_comm]

theorem Expectation.verify_allowed_eq_ok_iff (subject : String) {v : Option α} :
    allowed.verify subject probe = .ok v ↔ ∃ a, v = some a ∧ probe = .allowed a := by
  cases probe <;> simp [verify, eq_comm]

namespace ContextAct

variable (p : Principal) (e : EntityId) (a : Action) (m : Session α) (env : Environment)
  (s : ContextState)

/-- A check runs its operation once. -/
theorem assertDenied_apply : assertDenied p e a m env s =
    ((Probe.ofOutcome (m env s.access.transcript).1).requireDenied p e a,
      { s with access := { s.access with transcript := (m env s.access.transcript).2 } }) := rfl

theorem assertAllowed_apply : assertAllowed p e a m env s =
    ((Probe.ofOutcome (m env s.access.transcript).1).requireAllowed p e a,
      { s with access := { s.access with transcript := (m env s.access.transcript).2 } }) := rfl

end ContextAct

end Checks

namespace RestClient

variable {α : Type}

/-- **Getting a value is one exchange, or none.** -/
theorem get_apply (c : RestClient) (d : Json.Decoder α) (path : String) (env : Environment)
    (t : Transcript) :
    c.get d path env t =
      match c.request "GET" path .empty with
      | .error f => (.error f, t)
      | .ok r => ((env.respond t r).read d, env.after t r) := by
  unfold get
  rw [Program.bind_apply, call_apply]
  cases c.request "GET" path .empty with
  | error f => rfl
  | ok r =>
    unfold Reply.read
    simp only
    cases (env.respond t r).outcome <;> rfl

section OneAnswer

variable {c : RestClient} {d : Json.Decoder α} {path : String} {env : Environment}
  {t : Transcript} {r : Request}

/-- **A value that may be missing is missing exactly if the answer says so.** -/
theorem getOption_eq_none_iff (sent : c.request "GET" path .empty = .ok r) :
    (c.getOption d path env t).1 = .ok none ↔ (env.respond t r).isMissing = true := by
  have got : c.get d path env t = ((env.respond t r).read d, env.after t r) := by
    rw [get_apply, sent]
  unfold getOption
  rw [Program.bind_apply]
  unfold Session.attempt
  rw [got]
  cases h : (env.respond t r).read d with
  | ok v =>
    have accepted := Reply.isAccepted_of_yields (Reply.read_eq_ok_iff.1 h)
    rw [(Reply.isRefusal_of_isAccepted accepted).2]
    exact iff_of_false nofun nofun
  | error f =>
    rw [← (Reply.fault_of_read h).2]
    simp only
    cases f.isNotFound with
    | true => exact iff_of_true rfl rfl
    | false => exact iff_of_false nofun nofun

/-- Whether something is found is `false` exactly if it is missing. -/
theorem isSome_eq_false_iff {m : Session (Option α)} :
    ((do let found ← m; return found.isSome : Session Bool) env t).1 = .ok false ↔
      (m env t).1 = .ok none := by
  rw [Program.bind_apply]
  rcases m env t with ⟨f | _ | v, t'⟩
  · exact iff_of_false nofun nofun
  · exact iff_of_true rfl rfl
  · exact iff_of_false nofun nofun

end OneAnswer

/-- **Verdicts follow from answers.**  What comes of getting one value is decided by the answer
alone: it is allowed, denied or failed (`Reply.Decides`), every check of a verdict passes for one
class only, and a thing is taken for missing exactly if the answer says so. -/
theorem get_verdict (c : RestClient) (d : Json.Decoder α) (path : String) (env : Environment)
    (s : ContextState) {r : Request} (sent : c.request "GET" path .empty = .ok r) :
    let t := s.access.transcript
    let reply := env.respond t r
    let operation := c.get d path
    (∃ probe : Probe α, Session.probe operation env t = (.ok probe, env.after t r) ∧
      reply.Decides d probe ∧
      (∀ missing subject v, (Expectation.denied missing).verify subject probe = .ok v ↔
        v = none ∧ reply.isRefusal = true) ∧
      (∀ subject v, Expectation.allowed.verify subject probe = .ok v ↔
        ∃ a, v = some a ∧ reply.Yields d a)) ∧
    (∀ p e a, (ContextAct.assertDenied p e a operation env s).1 = .ok () ↔
      reply.isRefusal = true) ∧
    (∀ p e a v, (ContextAct.assertAllowed p e a operation env s).1 = .ok v ↔
      reply.Yields d v) ∧
    ((c.getOption d path env t).1 = .ok none ↔ reply.isMissing = true) ∧
    (∀ ds, path = Route.dataset ds [] →
      ((c.datasetExists ds env t).1 = .ok false ↔ reply.isMissing = true)) ∧
    (∀ ns : NamespaceId, path = Route.path ["namespaces", ns.name] →
      ((c.namespaceExists ns env t).1 = .ok false ↔ reply.isMissing = true)) := by
  intro t reply operation
  have got : operation env t = (reply.read d, env.after t r) := by
    show c.get d path env t = _
    rw [get_apply, sent]
  have decides := reply.decides_read d
  refine ⟨⟨.ofOutcome (reply.read d), ?_, decides, ?_, ?_⟩, ?_, ?_,
    getOption_eq_none_iff sent, ?_, ?_⟩
  · unfold Session.probe
    rw [got]
  · intro missing subject v
    rw [Expectation.verify_denied_eq_ok_iff, decides.denied]
  · intro subject v
    simp only [Expectation.verify_allowed_eq_ok_iff, decides.allowed]
  · intro p e a
    rw [ContextAct.assertDenied_apply, Probe.requireDenied_eq_ok_iff, ← decides.denied]
    exact iff_of_eq (congrArg (fun out : Outcome α × Transcript =>
      ∃ f, Probe.ofOutcome out.1 = .denied f) got)
  · intro p e a v
    rw [ContextAct.assertAllowed_apply, Probe.requireAllowed_eq_ok_iff, ← decides.allowed]
    exact iff_of_eq (congrArg (fun out : Outcome α × Transcript =>
      Probe.ofOutcome out.1 = .allowed v) got)
  · rintro ds rfl
    exact isSome_eq_false_iff.trans (getOption_eq_none_iff sent)
  · rintro ns rfl
    exact isSome_eq_false_iff.trans (getOption_eq_none_iff sent)

/-- A server error that says so in capitals is a refusal: nobody is shown anything, and nothing
is missing. -/
theorem get_verdict_of_marked_error :
    let env : Environment :=
      .replying fun _ _ => .answered ⟨500, "bob IS NOT AUTHORIZED"⟩
    let version := RestClient.local.get Json.Decoder.any (Route.path ["version"])
    (∃ r, RestClient.local.request "GET" (Route.path ["version"]) .empty = .ok r) ∧
      ∀ p e a, (ContextAct.assertDenied p e a version env (.start [])).1 = .ok () := by
  intro env version
  obtain ⟨r, sent⟩ := (RestClient.local.request_route_iff "GET" ["version"] .empty).2
    RestClient.canSend_local
  have verdict := RestClient.local.get_verdict Json.Decoder.any _ env (.start []) sent
  refine ⟨⟨r, sent⟩, ?_⟩
  intro p e a
  refine (verdict.2.1 p e a).2 ?_
  show Reply.isRefusal (.answered ⟨500, "bob IS NOT AUTHORIZED"⟩) = true
  decide +kernel

end RestClient

end AccessHarness
