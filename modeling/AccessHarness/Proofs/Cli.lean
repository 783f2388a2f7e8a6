import AccessHarness.Cli
import AccessHarness.Proofs.Rest.Requests
import Mathlib.Data.List.Defs
import Mathlib.Data.List.Forall2
import Mathlib.Data.List.Nodup

/-!
# What the command line reports

The command tries the scenarios that were picked and reports on each; its status says whether all
of them passed.

* `Trial.Passed` — a trial of which all three parts went well.
* `Trial.ToldBy` — the line of a report that is about a trial.
* `Scenario.Tried` — what a trial of a scenario is, after what happened so far.
* `TriedInTurn` — scenarios tried one after the other, each in a context of its own.
* `Command.tryAll_eq` — the loop over scenarios tries them in turn, and each once.
* `Command.carryOut_truthful` — what comes of a command line that does not ask for help.

### What is load-bearing

**Nothing is tried but through the watch.**  A command is carried out in whatever monad there is a
watch in, and a trial is handed to the watch (`timed`) before it is looked at.  A command that is
`pure` in every monad never used it: no context is opened, so nothing is sent.

**What a watch says is no matter.**  Of a watch it is assumed only that it hands on the trial it was
given (`Command.Honest`).  Times stand in the lines of a report and nowhere else: status and counts
come from the trials, which are fixed before any time is known.

**Every context is a new one** (`Context.fresh_of_begin`).  Its names end with a text that is drawn
for it alone, so what one scenario leaves behind bears no name of the next.
-/

namespace AccessHarness

/-! ### Trials -/

namespace Trial

/-- **A trial of which all parts went well**: its context was opened, the scenario succeeded, and so
did the cleanup. -/
def Passed (trial : Trial) : Prop :=
  ∃ opened settled after, trial = .ran opened (.ok ()) settled (.ok ()) after

/-- A trial passed exactly if there is nothing to complain about. -/
theorem complaint_eq_none_iff {trial : Trial} (scenario : String) :
    trial.complaint scenario = none ↔ trial.Passed := by
  constructor
  · intro nothing
    match trial with
    | .ran opened (.ok ()) settled (.ok ()) after => exact ⟨opened, settled, after, rfl⟩
  · rintro ⟨opened, settled, after, rfl⟩
    rfl

instance (trial : Trial) : Decidable trial.Passed :=
  decidable_of_iff (trial.complaint "" = none) (complaint_eq_none_iff "")

/-- What a column is filled up with. -/
def blanks (n : Nat) : String := String.ofList (List.replicate n ' ')

/-- The first columns of a line: the suite, the scenario, and how long it took. -/
def columns (s : Scenario) (time : String) : String :=
  (s.suite.name ++ blanks (14 - s.suite.name.length)) ++ " " ++
    (s.name ++ blanks (32 - s.name.length)) ++ " " ++ time

/-- **The line that tells of a trial.**  It says that the trial passed, or that it failed and why:
of two failures it is that of the scenario rather than that of the cleanup. -/
inductive ToldBy (s : Scenario) (time : String) : Trial → String → Prop
  | passed (opened : Transcript) (settled after : ContextState) :
      ToldBy s time (.ran opened (.ok ()) settled (.ok ()) after) ("PASS  " ++ columns s time)
  | failed (opened : Transcript) (f : Fault) (settled : ContextState) (cleanup : Outcome Unit)
      (after : ContextState) :
      ToldBy s time (.ran opened (.error f) settled cleanup after)
        ("FAIL  " ++ columns s time ++ "  " ++ (f.kind.name ++ ": " ++ f.message))
  | unclean (opened : Transcript) (settled : ContextState) (f : Fault) (after : ContextState) :
      ToldBy s time (.ran opened (.ok ()) settled (.error f) after)
        ("FAIL  " ++ columns s time ++ "  " ++ ("teardown: " ++ (f.kind.name ++ ": " ++ f.message)))
  | notOpened (f : Fault) (after : Transcript) :
      ToldBy s time (.notOpened f after)
        ("FAIL  " ++ columns s time ++ "  " ++ ("setting up " ++ s.name ++ ": " ++ f.message))

/-- A trial is told of in the line of its result. -/
theorem toldBy_line (trial : Trial) (s : Scenario) (time : String) :
    trial.ToldBy s time (Command.Result.line ⟨s, time, trial.complaint s.name⟩) := by
  match trial with
  | .ran opened (.ok ()) settled (.ok ()) after => exact .passed opened settled after
  | .ran opened (.error f) settled cleanup after => exact .failed opened f settled cleanup after
  | .ran opened (.ok ()) settled (.error f) after => exact .unclean opened settled f after
  | .notOpened f after => exact .notOpened f after

end Trial

/-- A context that is opened is one of these settings, and its names end with the text that is
drawn for it. -/
theorem Context.fresh_of_begin {settings : Settings} {env : Environment} {t opened : Transcript}
    {c : Context} (opens : (Context.begin settings).run env t = (.ok c, opened)) :
    c.settings = settings ∧ c.suffix = env.suffix.first := by
  unfold Context.begin at opens
  rw [Session.run_bind] at opens
  rcases begun : (Context.adminClient settings).run env t with ⟨f | admin, u⟩ <;>
    rw [begun] at opens <;> cases opens
  exact ⟨rfl, rfl⟩

/-- **What a trial of a scenario is**: a context is opened; if that works, the scenario is run in
it, with nothing granted, logged in or registered before, and it is torn down whatever the scenario
came to. -/
inductive Scenario.Tried (s : Scenario) (settings : Settings) (env : Environment) (t : Transcript) :
    Trial → Prop
  | notOpened {f : Fault} {after : Transcript}
      (refused : (Context.begin settings).run env t = (.error f, after)) :
      Tried s settings env t (.notOpened f after)
  | ran {c : Context} {opened : Transcript} {outcome cleanup : Outcome Unit}
      {settled after : ContextState}
      (opens : (Context.begin settings).run env t = (.ok c, opened))
      (fresh : c.settings = settings ∧ c.suffix = env.suffix.first)
      (runs : s.run c env ⟨⟨opened, Ledger.empty⟩, OrderedMap.empty, [], []⟩ = (outcome, settled))
      (cleans : c.teardown env settled = (cleanup, after)) :
      Tried s settings env t (.ran opened outcome settled cleanup after)

theorem Scenario.tried_trial (s : Scenario) (settings : Settings) (env : Environment)
    (t : Transcript) : s.Tried settings env t (s.trial settings env t) := by
  unfold trial Trial.begin
  rcases begun : (Context.begin settings).run env t with ⟨f | c, opened⟩
  · exact .notOpened begun
  · exact .ran begun (Context.fresh_of_begin begun) rfl rfl

theorem Scenario.Tried.eq {s : Scenario} {settings : Settings} {env : Environment} {t : Transcript}
    {trial : Trial} (h : s.Tried settings env t trial) : trial = s.trial settings env t := by
  unfold Scenario.trial Trial.begin
  cases h with
  | notOpened refused => rw [refused]
  | ran opens fresh runs cleans =>
    rw [opens]
    simp only [ContextState.start, runs, cleans]

/-- **Scenarios tried one after the other**, whatever came of those before: each goes on from what
happened in the last, and the text that was drawn for the last is not used again. -/
inductive TriedInTurn (settings : Settings) :
    Environment → List Scenario → Transcript → List Trial → Prop
  | nil (env : Environment) (t : Transcript) : TriedInTurn settings env [] t []
  | cons {env : Environment} {s : Scenario} {rest : List Scenario} {t : Transcript} {trial : Trial}
      {trials : List Trial} (first : s.Tried settings env t trial)
      (later : TriedInTurn settings { env with suffix := ⟨fun n => env.suffix.draw (n + 1)⟩ } rest
        trial.transcript trials) :
      TriedInTurn settings env (s :: rest) t (trial :: trials)

theorem exists_triedInTurn (settings : Settings) (env : Environment) (picked : List Scenario)
    (t : Transcript) : ∃ trials, TriedInTurn settings env picked t trials := by
  induction picked generalizing env t with
  | nil => exact ⟨[], .nil env t⟩
  | cons s rest ih =>
    obtain ⟨trials, later⟩ := ih env.nextContext (s.trial settings env t).transcript
    exact ⟨_, .cons (s.tried_trial settings env t) later⟩

theorem TriedInTurn.length_eq {settings : Settings} {env : Environment} {picked : List Scenario}
    {t : Transcript} {trials : List Trial} (h : TriedInTurn settings env picked t trials) :
    trials.length = picked.length := by
  induction h with
  | nil env t => rfl
  | cons first later ih => rw [List.length_cons, List.length_cons, ih]

namespace Command

/-! ### What is picked -/

/-- **What is picked stands in the registry**, in its order. -/
theorem sublist_of_select {args : List String} {picked : List Scenario}
    (h : select args = .ok picked) : picked.Sublist Scenario.registry := by
  unfold select at h
  simp only at h
  split at h
  · cases h
  · cases named : suitesOfAll (valuesOf "--suite" args) with
    | error e =>
      rw [named] at h
      cases h
    | ok suites =>
      rw [named] at h
      cases h
      exact List.filter_sublist

/-- No scenario stands twice in the registry. -/
theorem nodup_registry : (Scenario.registry.map Scenario.name).Nodup := by decide

/-! ### Reports -/

/-- The results of trials, each with its time. -/
def results (picked : List Scenario) (trials : List Trial) (times : List String) : List Result :=
  List.zipWith3 (fun s trial time => ⟨s, time, trial.complaint s.name⟩) picked trials times

@[simp] theorem results_nil (trials : List Trial) (times : List String) :
    results [] trials times = [] := rfl

@[simp] theorem results_cons (s : Scenario) (picked : List Scenario) (trial : Trial)
    (trials : List Trial) (time : String) (times : List String) :
    results (s :: picked) (trial :: trials) (time :: times) =
      ⟨s, time, trial.complaint s.name⟩ :: results picked trials times := rfl

/-- Results tell of their trials, one by one. -/
theorem toldBy_results {picked : List Scenario} {trials : List Trial} {times : List String}
    (h : trials.length = picked.length) (h' : times.length = picked.length) :
    List.Forall₂ (fun x line => x.2.1.ToldBy x.1 x.2.2 line) (picked.zip (trials.zip times))
      ((results picked trials times).map Result.line) := by
  induction picked generalizing trials times with
  | nil => exact .nil
  | cons s rest ih =>
    obtain ⟨trial, trials, rfl⟩ := List.exists_cons_of_length_eq_add_one h
    obtain ⟨time, times, rfl⟩ := List.exists_cons_of_length_eq_add_one h'
    refine .cons (trial.toldBy_line s time) (ih ?_ ?_)
    · simpa using h
    · simpa using h'

theorem length_results {picked : List Scenario} {trials : List Trial} {times : List String}
    (h : trials.length = picked.length) (h' : times.length = picked.length) :
    (results picked trials times).length = picked.length := by
  have lines := (toldBy_results h h').length_eq
  simpa [h, h'] using lines.symm

/-- The failures of a report are those of the trials. -/
theorem countP_isFailure {picked : List Scenario} {trials : List Trial} {times : List String}
    (h : trials.length = picked.length) (h' : times.length = picked.length) :
    (results picked trials times).countP Result.isFailure =
      trials.countP fun trial => ¬ trial.Passed := by
  induction picked generalizing trials times with
  | nil => rw [results_nil, List.eq_nil_of_length_eq_zero h, List.countP_nil, List.countP_nil]
  | cons s rest ih =>
    obtain ⟨trial, trials, rfl⟩ := List.exists_cons_of_length_eq_add_one h
    obtain ⟨time, times, rfl⟩ := List.exists_cons_of_length_eq_add_one h'
    have same : (trial.complaint s.name).isSome = decide (¬ trial.Passed) := by
      rw [Bool.eq_iff_iff, decide_eq_true_iff, ← Trial.complaint_eq_none_iff s.name,
        Option.isSome_iff_ne_none]
    rw [results_cons, List.countP_cons, List.countP_cons, ih (by simpa using h) (by simpa using h'),
      Result.isFailure, same]

/-- A watch that hands on what it was given. -/
def Honest {m : Type → Type} [Monad m] (timed : (Unit → Trial) → m (Trial × String))
    (measure : (Unit → Trial) → m String) : Prop :=
  ∀ trial, timed trial = (fun time => (trial (), time)) <$> measure trial

/-- **Scenarios are tried in turn**, and each is handed to the watch once. -/
theorem tryAll_eq {m : Type → Type} [Monad m] [LawfulMonad m]
    {timed : (Unit → Trial) → m (Trial × String)} {measure : (Unit → Trial) → m String}
    (honest : Honest timed measure) {settings : Settings} {env : Environment}
    {picked : List Scenario} {t : Transcript} {trials : List Trial}
    (inTurn : TriedInTurn settings env picked t trials) :
    tryAll timed settings env picked t =
      results picked trials <$> trials.mapM fun trial => measure fun _ => trial := by
  induction inTurn with
  | nil env t => simp [tryAll]
  | cons first later ih =>
    cases first.eq
    rw [tryAll, honest]
    simp [Environment.nextContext, Suffixes.rest, ih]

/-- **The report tells the truth**: each line tells of one trial, what it counts are trials, and the
status says whether all of them passed. -/
theorem report_results {picked : List Scenario} {trials : List Trial} {times : List String}
    (h : trials.length = picked.length) (h' : times.length = picked.length) :
    let passed := trials.countP fun trial => trial.Passed
    let failed := trials.countP fun trial => ¬ trial.Passed
    let answer := report (results picked trials times)
    passed + failed = picked.length ∧
      (∃ lines, List.Forall₂ (fun x line => x.2.1.ToldBy x.1 x.2.2 line)
          (picked.zip (trials.zip times)) lines ∧
        answer.output = [""] ++ lines ++
          ["", Nat.repr passed ++ " passed, " ++ Nat.repr failed ++ " failed"]) ∧
      answer.complaint = none ∧
      (answer.status = 0 ↔ ∀ trial ∈ trials, trial.Passed) ∧
      (answer.status = 1 ↔ ∃ trial ∈ trials, ¬ trial.Passed) := by
  intro passed failed answer
  have counted : (results picked trials times).countP Result.isFailure = failed :=
    countP_isFailure h h'
  have all : passed + failed = picked.length := by
    rw [← h]
    have split : trials.length = _ :=
      List.length_eq_countP_add_countP fun trial : Trial => decide trial.Passed
    simpa [passed, failed] using split.symm
  have none : failed = 0 ↔ ∀ trial ∈ trials, trial.Passed := by
    simp [failed, List.countP_eq_zero]
  have status : answer.status = if failed = 0 then 0 else 1 := by
    rw [← counted]
    rfl
  refine ⟨all, ⟨_, toldBy_results h h', ?_⟩, rfl, ?_, ?_⟩
  · have left : (results picked trials times).length - failed = passed := by
      rw [length_results h h', ← all, Nat.add_sub_cancel]
    rw [← left, ← counted]
    rfl
  · rw [status, ← none]
    split <;> simp_all
  · rw [status]
    have some : failed ≠ 0 ↔ ∃ trial ∈ trials, ¬ trial.Passed := by
      rw [Ne, none]
      push Not
      rfl
    rw [← some]
    split <;> simp_all

/-- **The command line tells the truth**, in whatever monad it is carried out.  Where arguments name
something unknown or settings cannot be read, the status is 2 and nothing is tried; neither is it
where scenarios are only listed.  Otherwise each scenario that was picked is tried once, in the
order of the registry and in a context of its own, whatever comes of the others; each has a line
that says how it went; and the status is 0 if all of them passed, and 1 if not. -/
theorem carryOut_truthful {m : Type → Type} [Monad m] [LawfulMonad m]
    (timed : (Unit → Trial) → m (Trial × String)) (lookup : String → Option String)
    (env : Environment) {args : List String} (noHelp : "--help" ∉ args ∧ "-h" ∉ args) :
    (∀ e, select args = .error e →
      carryOut timed lookup env args = pure ⟨2, [], some ("cdap-itn: " ++ e.message)⟩) ∧
    ∀ picked, select args = .ok picked →
      (picked.Sublist Scenario.registry ∧ (picked.map Scenario.name).Nodup) ∧
      ("--list" ∈ args →
        carryOut timed lookup env args = pure ⟨0, picked.map fun s =>
          s.suite.name ++ Trial.blanks (14 - s.suite.name.length) ++ " " ++ s.name, none⟩) ∧
      ("--list" ∉ args →
        (∀ f, Settings.ofLookup lookup = .error f → carryOut timed lookup env args =
          pure ⟨2, [], some ("cdap-itn: loading CDAP_* configuration: " ++ f.message)⟩) ∧
        ∀ settings, Settings.ofLookup lookup = .ok settings →
          ∃ trials, TriedInTurn settings env picked [] trials ∧
            ∃ answer : List String → Answer,
              (∀ measure, Honest timed measure → carryOut timed lookup env args =
                answer <$> trials.mapM fun trial => measure fun _ => trial) ∧
              ∀ times : List String, times.length = picked.length →
                let passed := trials.countP fun trial => trial.Passed
                let failed := trials.countP fun trial => ¬ trial.Passed
                passed + failed = picked.length ∧
                  (∃ lines, List.Forall₂ (fun x line => x.2.1.ToldBy x.1 x.2.2 line)
                      (picked.zip (trials.zip times)) lines ∧
                    (answer times).output = [""] ++ lines ++
                      ["", Nat.repr passed ++ " passed, " ++ Nat.repr failed ++ " failed"]) ∧
                  (answer times).complaint = none ∧
                  ((answer times).status = 0 ↔ ∀ trial ∈ trials, trial.Passed) ∧
                  ((answer times).status = 1 ↔ ∃ trial ∈ trials, ¬ trial.Passed)) := by
  refine ⟨?_, ?_⟩
  · intro e fails
    have read : ofArguments args = .error e := by
      simp [ofArguments, noHelp, fails]
    rw [carryOut, read]
    rfl
  · intro picked picks
    have sublist := sublist_of_select picks
    refine ⟨⟨sublist, nodup_registry.sublist (sublist.map _)⟩, ?_, ?_⟩
    · intro lists
      have read : ofArguments args = .ok (.list picked) := by
        simp [ofArguments, noHelp, picks, lists]
      rw [carryOut, read]
      rfl
    · intro runs
      have read : ofArguments args = .ok (.run picked) := by
        simp [ofArguments, noHelp, picks, runs]
      refine ⟨?_, ?_⟩
      · intro f unread
        rw [carryOut, read]
        simp only [unread]
        rfl
      · intro settings loaded
        obtain ⟨trials, inTurn⟩ := exists_triedInTurn settings env picked []
        refine ⟨trials, inTurn, fun times => report (results picked trials times), ?_, ?_⟩
        · intro measure honest
          rw [carryOut, read]
          simp only [loaded, tryAll_eq honest inTurn]
          simp
        · intro times long
          exact report_results inTurn.length_eq long

end Command

/-- One scenario is picked by its name and tried, where nobody answers; that is what is reported. -/
theorem Command.carryOut_truthful_deployApp :
    let env : Environment := .replying fun _ _ => .unreachable
    let args := ["--scenario", "deploy_app"]
    let s : Scenario := ⟨"deploy_app", .apps, Scenario.deployApp⟩
    let timed (trial : Unit → Trial) : Id (Trial × String) := (trial (), "    0.0s")
    ("--help" ∉ args ∧ "-h" ∉ args) ∧ ∃ settings trial line,
      s.Tried settings env [] trial ∧ trial.ToldBy s "    0.0s" line ∧
      carryOut timed (fun _ => none) env args =
        ⟨1, ["", line, "", "0 passed, 1 failed"], none⟩ := by
  intro env args s timed
  have noHelp : "--help" ∉ args ∧ "-h" ∉ args := by decide
  have picks : select args = .ok [s] := by rfl
  obtain ⟨-, runs⟩ := (carryOut_truthful timed (fun _ => none) env noHelp).2 [s] picks |>.2
  have outcome : ((Settings.ofLookup fun _ => none).map fun settings =>
      decide (s.trial settings env []).Passed).toOption = some false := by
    decide +kernel
  cases loaded : Settings.ofLookup fun _ => none with
  | error f =>
    rw [loaded] at outcome
    cases outcome
  | ok settings =>
    obtain ⟨trials, inTurn, answer, run, told⟩ := (runs (by decide)).2 settings loaded
    have carried := run (fun _ => "    0.0s") fun _ => rfl
    obtain ⟨trial, rfl⟩ := List.length_eq_one_iff.1 inTurn.length_eq
    have first : s.Tried settings env [] trial := by
      cases inTurn
      assumption
    have failed : ¬ trial.Passed := by
      rw [first.eq]
      rw [loaded] at outcome
      simpa [Except.map, Except.toOption] using outcome
    obtain ⟨-, ⟨lines, lined, output⟩, complaint, -, status⟩ := told ["    0.0s"] rfl
    obtain ⟨line, rfl⟩ := List.length_eq_one_iff.1 lined.length_eq.symm
    refine ⟨noHelp, settings, trial, line, first, (List.forall₂_cons.1 lined).1, ?_⟩
    have answered : carryOut timed (fun _ => none) env args = answer ["    0.0s"] := carried
    rw [answered]
    have one := status.2 ⟨trial, List.mem_singleton.2 rfl, failed⟩
    generalize answer ["    0.0s"] = a at complaint output one
    obtain ⟨n, out, c⟩ := a
    cases one
    cases complaint
    rw [show out = _ from output]
    simp only [List.countP_cons, List.countP_nil, failed, decide_false, decide_true,
      not_false_eq_true]
    rfl

end AccessHarness
