import AccessHarness.Pipeline.Plugins
import AccessHarness.Proofs.Access.Verdicts
import AccessHarness.Proofs.Session.Histories
import AccessHarness.Proofs.Wait.Schedule

/-!
# Rounds of listings

A pipeline needs plugins of more than one artifact.  A wait for them asks for one listing after
another, and begins anew whenever it finds something missing.

* `Pipeline.Round` — one round: the listings in their order, up to the one that ends it.
* `Pipeline.Waiting` — rounds that found something missing, each with the pause after it.
* `Pipeline.Concludes` — what a wait comes to after its last round.
* `Pipeline.waitForPlugins_rounds` — every wait is some rounds of waiting and one that concludes
  it.

### What is load-bearing

**A round is a relation, and the program runs through exactly one.**  Its constructors say what an
answer does: the round goes on after a plugin that is listed, it ends with "not yet" where the
plugin is not among those listed or the artifact is missing, and it breaks with any other fault
(`round_iff`).  Nothing of a round reaches the next one but the transcript, so what is found in one
round is never held for another.

**A fault that is made of an answer says "missing" only of a 404** (`Reply.fault_of_read`), and a
request that cannot be sent never does (`RestClient.isMute_of_request`).

**The times are those of the schedule**, if requests take no time (`Environment.Instant`).  A
hundred pauses of three seconds fit the timeout exactly, so no pause is cut short
(`due_pluginAvailability`).
-/

namespace AccessHarness

/-! ### One listing -/

namespace RestClient

/-- The plugins that an answer lists. -/
def summaries : Json.Decoder (List PluginSummary) := Json.Decoder.list PluginSummary.decoder

/-- **What a client sends to have the plugins of a type listed** that extend an artifact. -/
def listing (c : RestClient) (parent : ArtifactId) (type : String) : Outcome Request :=
  c.request "GET" (Route.path ["namespaces", parent.ns.name, "artifacts", parent.name, "versions",
    parent.version, "extensions", type] ++ "?scope=" ++ ArtifactScope.system.display) .empty

/-- A listing is one exchange, or none. -/
theorem pluginSummaries_apply (c : RestClient) (parent : ArtifactId) (type : String)
    (env : Environment) (t : Transcript) :
    c.pluginSummaries parent type .system env t =
      match c.listing parent type with
      | .error f => (.error f, t)
      | .ok r => ((env.respond t r).read summaries, env.after t r) := by
  unfold pluginSummaries listing
  rw [get_apply]
  generalize c.request "GET" _ .empty = sent
  cases sent <;> rfl

end RestClient

namespace Reply

/-- Nothing can be read of an answer that says something is missing. -/
theorem read_missing {α : Type} (d : Json.Decoder α) (body : String) :
    (answered ⟨404, body⟩).read d = .error (.notFound (Fault.responseText 404 body)) := rfl

end Reply

/-- **Requests take no time**, whatever happened before them. -/
def Environment.Instant (env : Environment) : Prop := ∀ t r, env.latency t r = 0

namespace Pipeline

open RestClient (summaries)

variable {c : RestClient} {env : Environment}

/-- What a round is taken for. -/
def observed (o : Outcome Bool) : Observation Bool :=
  .ofOutcome (fun b => b == true) (fun b => if b then "true" else "false") o

/-- **One round**: listings that are asked for one after the other, how that ends, and what has
happened then. -/
inductive Round (c : RestClient) (env : Environment) :
    List (ArtifactId × String × String) → Transcript → Observation Bool → Transcript → Prop
  /-- Nothing is left to ask for. -/
  | complete (t : Transcript) : Round c env [] t (.met true) t
  /-- A plugin is listed, and the round goes on. -/
  | listed {parent type name rest t r plugins ending u} (sent : c.listing parent type = .ok r)
      (answer : (env.respond t r).Yields summaries plugins)
      (present : ∃ p ∈ plugins, p.name = name)
      (onward : Round c env rest (env.after t r) ending u) :
      Round c env ((parent, type, name) :: rest) t ending u
  /-- A plugin is not listed. -/
  | lacking {parent type name rest t r plugins} (sent : c.listing parent type = .ok r)
      (answer : (env.respond t r).Yields summaries plugins)
      (absent : ∀ p ∈ plugins, p.name ≠ name) :
      Round c env ((parent, type, name) :: rest) t (.notYet "false") (env.after t r)
  /-- The artifact is missing. -/
  | missing {parent type name rest t r body} (sent : c.listing parent type = .ok r)
      (answer : env.respond t r = .answered ⟨404, body⟩) :
      Round c env ((parent, type, name) :: rest) t
        (.notYet (Fault.notFound (Fault.responseText 404 body)).message) (env.after t r)
  /-- There is another fault: no answer, another status, or a body that cannot be read. -/
  | broken {parent type name rest t r f} (sent : c.listing parent type = .ok r)
      (answer : (env.respond t r).read summaries = .error f)
      (other : ∀ body, env.respond t r ≠ .answered ⟨404, body⟩) :
      Round c env ((parent, type, name) :: rest) t (.broken f) (env.after t r)
  /-- The client cannot ask. -/
  | unsent {parent type name rest t f} (refused : c.listing parent type = .error f) :
      Round c env ((parent, type, name) :: rest) t (.broken f) t

/-- A fault that does not say "missing" breaks a round. -/
theorem observed_of_error {f : Fault} (final : f.isNotFound = false) :
    observed (.error f) = .broken f :=
  Observation.ofOutcome_of_decisive (by rw [Outcome.isDecisive, final, Bool.not_false])

/-- What is taken for "not yet" decides nothing. -/
theorem undecided_of_observed {x : Outcome Bool} {seen : String} (h : observed x = .notYet seen) :
    Outcome.isDecisive (fun b => b == true) x = false := by
  rw [← Bool.not_eq_true]
  intro decided
  rw [observed, Observation.ofOutcome_of_decisive decided] at h
  cases x <;> cases h

/-- How the program goes through a round. -/
theorem pluginsPresent_cons (c : RestClient) (parent : ArtifactId) (type name : String)
    (rest : List (ArtifactId × String × String)) (env : Environment) (t : Transcript) :
    pluginsPresent c ((parent, type, name) :: rest) env t =
      match c.listing parent type with
      | .error f => (.error f, t)
      | .ok r =>
        match (env.respond t r).read summaries with
        | .error f => (.error f, env.after t r)
        | .ok plugins =>
          if plugins.any fun p => p.name == name then pluginsPresent c rest env (env.after t r)
          else (.ok false, env.after t r) := by
  rw [pluginsPresent, Program.bind_apply, RestClient.pluginSummaries_apply]
  cases c.listing parent type with
  | error f => rfl
  | ok r =>
    simp only
    cases (env.respond t r).read summaries with
    | error f => rfl
    | ok plugins =>
      simp only
      split <;> rfl

/-- Whether a plugin is among those listed. -/
theorem any_name_iff {plugins : List PluginSummary} {name : String} :
    (plugins.any fun p => p.name == name) = true ↔ ∃ p ∈ plugins, p.name = name := by
  simp only [List.any_eq_true, beq_iff_eq]

theorem any_name_eq_false_iff {plugins : List PluginSummary} {name : String} :
    (plugins.any fun p => p.name == name) = false ↔ ∀ p ∈ plugins, p.name ≠ name := by
  simp only [List.any_eq_false, beq_iff_eq, ne_eq]

/-- The program runs through a round. -/
theorem round_pluginsPresent (wanted : List (ArtifactId × String × String)) (t : Transcript) :
    Round c env wanted t (observed (pluginsPresent c wanted env t).1)
      (pluginsPresent c wanted env t).2 := by
  induction wanted generalizing t with
  | nil => exact .complete t
  | cons w rest ih =>
    obtain ⟨parent, type, name⟩ := w
    rw [pluginsPresent_cons]
    cases sent : c.listing parent type with
    | error f =>
      simp only
      rw [observed_of_error (c.isMute_of_request sent).2]
      exact .unsent sent
    | ok r =>
      simp only
      cases answer : (env.respond t r).read summaries with
      | error f =>
        simp only
        cases absent : (env.respond t r).isMissing with
        | true =>
          obtain ⟨body, missing⟩ := Reply.isMissing_iff.1 absent
          rw [missing, Reply.read_missing] at answer
          cases answer
          exact .missing sent missing
        | false =>
          rw [observed_of_error ((Reply.fault_of_read answer).2.trans absent)]
          refine .broken sent answer ?_
          intro body missing
          rw [missing] at absent
          cases absent
      | ok plugins =>
        have yields := Reply.read_eq_ok_iff.1 answer
        simp only
        cases present : plugins.any fun p => p.name == name with
        | true => exact .listed sent yields (any_name_iff.1 present) (ih (env.after t r))
        | false => exact .lacking sent yields (any_name_eq_false_iff.1 present)

/-- There is no other round. -/
theorem Round.eq_pluginsPresent {wanted : List (ArtifactId × String × String)} {t u : Transcript}
    {ending : Observation Bool} (round : Round c env wanted t ending u) :
    ending = observed (pluginsPresent c wanted env t).1 ∧
      u = (pluginsPresent c wanted env t).2 := by
  induction round with
  | complete t => exact ⟨rfl, rfl⟩
  | @listed parent type name rest t r plugins ending u sent answer present onward ih =>
    simp only [pluginsPresent_cons, sent, Reply.read_eq_ok_iff.2 answer, any_name_iff.2 present]
    exact ih
  | @lacking parent type name rest t r plugins sent answer absent =>
    simp only [pluginsPresent_cons, sent, Reply.read_eq_ok_iff.2 answer,
      any_name_eq_false_iff.2 absent]
    exact ⟨rfl, rfl⟩
  | @missing parent type name rest t r body sent answer =>
    simp only [pluginsPresent_cons, sent, answer, Reply.read_missing, and_true]
    rfl
  | @broken parent type name rest t r f sent answer other =>
    have absent : (env.respond t r).isMissing = false := by
      refine Bool.eq_false_iff.2 ?_
      intro missing
      obtain ⟨body, missing⟩ := Reply.isMissing_iff.1 missing
      exact other body missing
    have final : f.isNotFound = false := (Reply.fault_of_read answer).2.trans absent
    simp only [pluginsPresent_cons, sent, answer, observed_of_error final, and_self]
  | @unsent parent type name rest t f refused =>
    simp only [pluginsPresent_cons, refused, observed_of_error (c.isMute_of_request refused).2,
      and_self]

/-- Only a complete round meets the condition. -/
theorem Round.eq_true_of_met {wanted : List (ArtifactId × String × String)} {t u : Transcript}
    {b : Bool} (round : Round c env wanted t (.met b) u) : b = true := by
  generalize met : Observation.met b = ending at round
  induction round with
  | complete t =>
    cases met
    rfl
  | listed sent answer present onward ih => exact ih met
  | lacking => cases met
  | missing => cases met
  | broken => cases met
  | unsent => cases met

/-- **The program runs through exactly one round.** -/
theorem round_iff {wanted : List (ArtifactId × String × String)} {t u : Transcript}
    {ending : Observation Bool} :
    Round c env wanted t ending u ↔
      ending = observed (pluginsPresent c wanted env t).1 ∧
        u = (pluginsPresent c wanted env t).2 := by
  constructor
  · exact Round.eq_pluginsPresent
  · rintro ⟨rfl, rfl⟩
    exact round_pluginsPresent wanted t

/-- **What a round asks for**: listings from the first on, one after the other, and all of them if
it is complete. -/
theorem Round.asked {wanted : List (ArtifactId × String × String)} {t u : Transcript}
    {ending : Observation Bool} (round : Round c env wanted t ending u) :
    t <:+ u ∧ ∃ asked, asked <+: wanted ∧
      (u.since t).exchanges.map (fun x => .ok x.1) = asked.map (fun w => c.listing w.1 w.2.1) ∧
      (ending = .met true → asked = wanted) := by
  -- a round that ends with its first listing
  have one {w : ArtifactId × String × String} {rest : List (ArtifactId × String × String)}
      {t : Transcript} {r : Request} {ending : Observation Bool}
      (sent : c.listing w.1 w.2.1 = .ok r) (short : ending ≠ .met true) :
      t <:+ env.after t r ∧ ∃ asked, asked <+: w :: rest ∧
        ((env.after t r).since t).exchanges.map (fun x => .ok x.1) =
          asked.map (fun w => c.listing w.1 w.2.1) ∧ (ending = .met true → asked = w :: rest) := by
    refine ⟨env.suffix_after t r, [w], List.prefix_append [w] rest, ?_, fun met =>
      absurd met short⟩
    rw [env.since_after, List.map_singleton, sent]
    rfl
  induction round with
  | complete t =>
    refine ⟨List.suffix_refl t, [], List.prefix_refl [], ?_, fun _ => rfl⟩
    rw [Transcript.since_self]
    rfl
  | @listed parent type name rest t r plugins ending u sent answer present onward ih =>
    obtain ⟨later, asked, inOrder, requests, all⟩ := ih
    refine ⟨(env.suffix_after t r).trans later, (parent, type, name) :: asked,
      List.cons_prefix_cons.2 ⟨rfl, inOrder⟩, ?_, fun met => by rw [all met]⟩
    rw [Transcript.since_trans (env.suffix_after t r) later, env.since_after,
      Transcript.exchanges_append, List.map_append, requests, List.map_cons, sent]
    rfl
  | lacking sent answer absent => exact one sent nofun
  | missing sent answer => exact one sent nofun
  | broken sent answer other => exact one sent nofun
  | @unsent parent type name rest t f refused =>
    refine ⟨List.suffix_refl t, [], List.nil_prefix, ?_, nofun⟩
    rw [Transcript.since_self]
    rfl

/-! ### Round after round -/

/-- **Rounds that found something missing**, each with the pause after it. -/
inductive Waiting (c : RestClient) (env : Environment)
    (wanted : List (ArtifactId × String × String)) (t : Transcript) : Nat → Transcript → Prop
  | start : Waiting c env wanted t 0 t
  | again {k : Nat} {u v : Transcript} {seen : String} (sofar : Waiting c env wanted t k u)
      (round : Round c env wanted u (.notYet seen) v) :
      Waiting c env wanted t (k + 1) (.slept (Duration.ofSeconds 3) :: v)

/-- **What a wait comes to** after the round with number `k`: success, a fault that is handed on, or
a timeout if it was the last. -/
def Concludes (what : String) (k : Nat) : Observation Bool → Outcome Unit → Prop
  | .met _, o => o = .ok ()
  | .broken f, o => o = .error f
  | .notYet seen, o => k = 100 ∧ o = .error (.timeout what seen (Duration.ofSeconds 300))

variable {wanted : List (ArtifactId × String × String)} {t u : Transcript} {k : Nat}

section Instant

variable (instant : env.Instant)

include instant

/-- A round is over as soon as it begins. -/
theorem Round.clock {ending : Observation Bool} {v : Transcript}
    (round : Round c env wanted u ending v) : env.clock v = env.clock u := by
  have one (t : Transcript) (r : Request) : env.clock (env.after t r) = env.clock t := by
    rw [Environment.after, Environment.clock_exchanged, instant, Nat.add_zero]
  induction round with
  | complete t => rfl
  | listed sent answer present onward ih => exact ih.trans (one _ _)
  | lacking => exact one _ _
  | missing => exact one _ _
  | broken => exact one _ _
  | unsent => rfl

/-- The rounds are three seconds apart. -/
theorem Waiting.clock (h : Waiting c env wanted t k u) :
    env.clock u = env.clock t + Duration.ofSeconds (3 * k) := by
  induction h with
  | start => simp [Duration.ofSeconds]
  | @again k u v seen sofar round ih =>
    rw [Environment.clock_slept, round.clock instant, ih]
    unfold Duration.ofSeconds Duration.second
    omega

end Instant

/-- No pause is cut short. -/
theorem due_pluginAvailability (what : String) (h : k ≤ 100) :
    (WaitSpec.pluginAvailability what).due k = Duration.ofSeconds (3 * k) := by
  simp only [WaitSpec.due, WaitSpec.pluginAvailability, Duration.ofSeconds, Duration.second]
  omega

/-- There are a hundred and one rounds. -/
theorem rounds_pluginAvailability (what : String) :
    (WaitSpec.pluginAvailability what).rounds = 101 := by
  simp [WaitSpec.rounds, WaitSpec.pluginAvailability, Duration.ofSeconds, Duration.second]

/-- To ask for plugins takes no time if requests take none. -/
theorem now_pluginsPresent (instant : env.Instant) (s : Transcript) :
    env.timeline.now (pluginsPresent c wanted env s).2 = env.timeline.now s :=
  (round_pluginsPresent wanted s).clock instant

/-- What is waited for in vain is what rounds have found missing. -/
theorem waiting_iff_inVain (instant : env.Instant) (what : String) (h : k ≤ 100) :
    letI := env.timeline
    Waiting c env wanted t k u ↔
      (WaitSpec.pluginAvailability what).InVain (pluginsPresent c wanted env) (fun b => b == true)
        t k ((WaitSpec.pluginAvailability what).due k) u := by
  let := env.timeline
  have valid : (WaitSpec.pluginAvailability what).validate = .ok () := rfl
  have rounds := rounds_pluginAvailability what
  have pause {k : Nat} (h : k + 1 ≤ 100) : (WaitSpec.pluginAvailability what).due (k + 1) -
      (WaitSpec.pluginAvailability what).due k = Duration.ofSeconds 3 := by
    rw [due_pluginAvailability what h, due_pluginAvailability what (by omega)]
    unfold Duration.ofSeconds Duration.second
    omega
  constructor
  · intro waiting
    induction waiting with
    | start =>
      rw [WaitSpec.due_zero]
      exact .start
    | @again k u v seen sofar round ih =>
      obtain ⟨ending, rfl⟩ := round.eq_pluginsPresent
      rw [← pause h]
      exact (ih (by omega)).again_on_time valid (now_pluginsPresent instant)
        (undecided_of_observed ending.symm) (by omega)
  · intro vain
    generalize (WaitSpec.pluginAvailability what).due k = elapsed at vain
    induction vain with
    | start => exact .start
    | @again k elapsed u sofar undecided early ih =>
      have onTime := (sofar.on_time valid (now_pluginsPresent instant)).1
      have round : Round c env wanted u (.notYet _) (pluginsPresent c wanted env u).2 :=
        round_iff.2 ⟨(Observation.ofOutcome_of_not_decisive undecided).symm, rfl⟩
      rw [WaitSpec.passed_of_instant (now_pluginsPresent instant), onTime, WaitSpec.pause_due,
        pause h]
      exact (ih (by omega)).again round

/-- What the last evaluation comes to is what its round concludes. -/
theorem concludes_observed_iff (what : String) (k : Nat) (x : Outcome Bool) (o : Outcome Unit) :
    Concludes what k (observed x) o ↔
      (Outcome.isDecisive (fun b => b == true) x = true ∧ o = x.map fun _ => ()) ∨
        (Outcome.isDecisive (fun b => b == true) x = false ∧ k = 100 ∧
          o = .error (.timeout what (Outcome.seen (fun b => if b then "true" else "false") x)
            (Duration.ofSeconds 300))) := by
  unfold observed
  cases decided : Outcome.isDecisive (fun b => b == true) x with
  | true =>
    rw [Observation.ofOutcome_of_decisive decided]
    cases x <;> simp [Concludes, Except.map]
  | false =>
    rw [Observation.ofOutcome_of_not_decisive decided]
    simp [Concludes]

/-- The wait for the plugins forgets what was found. -/
theorem waitForPlugins_eq_iff (c : RestClient) (ns : NamespaceId) (version : String)
    (env : Environment) (t : Transcript) (o : Outcome Unit) (v : Transcript) :
    waitForPlugins c ns version env t = (o, v) ↔
      ∃ x, Session.waitForValue (.pluginAvailability ("pipeline plugins of version " ++ version))
          (pluginsPresent c (requiredPlugins ns version)) (fun b => b == true)
          (fun b => if b then "true" else "false") env t = (x, v) ∧ o = x.map fun _ => () := by
  let waited : Session Bool := Session.waitForValue
    (.pluginAvailability ("pipeline plugins of version " ++ version))
    (pluginsPresent c (requiredPlugins ns version)) (fun b => b == true)
    (fun b => if b then "true" else "false")
  show (waited >>= fun _ => return ()) env t = (o, v) ↔
    ∃ x, waited env t = (x, v) ∧ o = x.map fun _ => ()
  rw [Program.bind_apply]
  generalize waited env t = run
  obtain ⟨x, v'⟩ := run
  constructor
  · intro ended
    cases x <;> cases ended <;> exact ⟨_, rfl, rfl⟩
  · rintro ⟨x', same, rfl⟩
    cases same
    cases x <;> rfl

/-- **A wait is some rounds of waiting and one that concludes it.** -/
theorem waited_iff (instant : env.Instant) (what : String)
    (wanted : List (ArtifactId × String × String)) (t : Transcript) (o : Outcome Unit)
    (v : Transcript) :
    (∃ x, Session.waitForValue (.pluginAvailability what) (pluginsPresent c wanted)
        (fun b => b == true) (fun b => if b then "true" else "false") env t = (x, v) ∧
          o = x.map fun _ => ()) ↔
      ∃ k ending u, k ≤ 100 ∧ Waiting c env wanted t k u ∧ Round c env wanted u ending v ∧
        Concludes what k ending o := by
  let := env.timeline
  have valid : (WaitSpec.pluginAvailability what).validate = .ok () := rfl
  have now : ∀ s, env.timeline.now (pluginsPresent c wanted env s).2 = env.timeline.now s :=
    now_pluginsPresent instant
  have rounds := rounds_pluginAvailability what
  have timeout : (WaitSpec.pluginAvailability what).timeout = Duration.ofSeconds 300 := rfl
  simp only [Session.waitForValue, WaitSpec.waitForValue_eq_iff_of_instant valid now, round_iff]
  rw [rounds, timeout]
  constructor
  · rintro ⟨x, ⟨k, u, vain, ended⟩, rfl⟩
    have room := (vain.on_time valid now).2
    have room' : k ≤ 100 := by omega
    refine ⟨k, _, u, room', (waiting_iff_inVain instant what room').2 vain, ⟨rfl, ?_⟩, ?_⟩
    · rcases ended with ⟨-, same⟩ | ⟨-, -, same⟩
      · exact (congrArg Prod.snd same).symm
      · exact (congrArg Prod.snd same).symm
    · rw [concludes_observed_iff]
      rcases ended with ⟨decided, same⟩ | ⟨undecided, last, same⟩
      · exact .inl ⟨decided, congrArg (·.1.map fun _ => ()) same.symm⟩
      · exact .inr ⟨undecided, by omega, congrArg (·.1.map fun _ => ()) same.symm⟩
  · rintro ⟨k, ending, u, room, waiting, ⟨rfl, rfl⟩, conclusion⟩
    have vain := (waiting_iff_inVain instant what room).1 waiting
    rw [concludes_observed_iff] at conclusion
    rcases conclusion with ⟨decided, rfl⟩ | ⟨undecided, rfl, rfl⟩
    · exact ⟨_, ⟨k, u, vain, .inl ⟨decided, rfl⟩⟩, rfl⟩
    · exact ⟨_, ⟨100, u, vain, .inr ⟨undecided, rfl, rfl⟩⟩, rfl⟩

/-- A platform that knows of no pipelines at first, and lists their plugins ever after. -/
def lateListings : Environment :=
  let artifact := "\"type\":\"\",\"artifact\":\x7b\"name\":\"\",\"version\":\"\"\x7d\x7d"
  .replying fun t _ =>
    if t = [] then .answered ⟨404, ""⟩
    else .answered ⟨200, "[\x7b\"name\":\"File\"," ++ artifact ++
      ",\x7b\"name\":\"GroupByAggregate\"," ++ artifact ++ "]"⟩

end Pipeline

end AccessHarness
