import AccessHarness.Scenario.Trial
import AccessHarness.Text.Column

/-!
# The command line

The arguments `[--suite NAME]... [--scenario NAME]... [--list]` pick scenarios; the command
tries each of them and reports on it.

* `Command.ofArguments` says what a list of arguments asks for.
* `Command.carryOut` does it and says what is printed and which status the program ends
  with: 0 if all went well, 1 if a scenario failed, 2 if the command could not be
  carried out.

**How arguments are read.**  A flag takes the argument after it, whatever that is, and an
argument nobody asks for is ignored; so is a flag at the very end.  The names of
scenarios are looked at before the suites.
-/

namespace AccessHarness

/-- What a command line asks for. -/
inductive Command where
  /-- Say how the program is used. -/
  | help
  /-- Name the scenarios that were picked. -/
  | list (picked : List Scenario)
  /-- Try the scenarios that were picked. -/
  | run (picked : List Scenario)

/-- Why a command line cannot be understood. -/
inductive SelectionFault where
  | unknownScenario (name : String)
  | unknownSuite (raw : String)
  deriving DecidableEq, Repr

/-- The wording of a fault. -/
def SelectionFault.message : SelectionFault → String
  | .unknownScenario name => "unknown scenario '" ++ name ++ "' (see --list)"
  | .unknownSuite raw => "unknown suite '" ++ raw ++ "'"

namespace Command

/-- The argument after each occurrence of a flag. -/
def valuesOf (flag : String) : List String → List String
  | a :: b :: rest => if a = flag then b :: valuesOf flag (b :: rest) else valuesOf flag (b :: rest)
  | _ => []

/-- The suites of a name; `all` in any case names every suite. -/
def suitesOf (raw : String) : Except SelectionFault (List Suite) :=
  if Text.sameLetters "all" raw then .ok Suite.all
  else match Suite.ofName? raw with
    | some s => .ok [s]
    | none => .error (.unknownSuite raw)

/-- The suites of a list of names. -/
def suitesOfAll : List String → Except SelectionFault (List Suite)
  | [] => .ok []
  | raw :: rest => do
    let here ← suitesOf raw
    return here ++ (← suitesOfAll rest)

/-- **The scenarios that are picked**, in the order of the registry: those named, and
those of the suites named; every one if nothing is named. -/
def select (args : List String) : Except SelectionFault (List Scenario) := do
  let names := valuesOf "--scenario" args
  match names.find? fun n => (Scenario.find? n).isNone with
  | some n => throw (.unknownScenario n)
  | none => pure ()
  let suites ← suitesOfAll (valuesOf "--suite" args)
  let suites := if names.isEmpty && suites.isEmpty then Suite.all else suites
  return Scenario.registry.filter fun s => suites.contains s.suite || names.contains s.name

/-- What arguments ask for. -/
def ofArguments (args : List String) : Except SelectionFault Command :=
  if args.contains "--help" || args.contains "-h" then .ok .help
  else
    match select args with
    | .error e => .error e
    | .ok picked => .ok (if args.contains "--list" then .list picked else .run picked)

/-- How the program is used. -/
def usage : List String :=
  ["cdap-itn",
   "",
   "USAGE:",
   "  cdap-itn [--suite NAME]... [--scenario NAME]... [--list]",
   "",
   "OPTIONS:",
   "  --suite NAME       authorization, apps, etl or all (repeatable; default: all)",
   "  --scenario NAME    run a single scenario (repeatable)",
   "  --list             list scenarios and exit",
   "  -h, --help         show this help",
   "",
   "ENVIRONMENT:",
   "  CDAP_INSTANCE_URI, CDAP_AUTH_URI, CDAP_ACCESS_TOKEN, CDAP_ADMIN_USER,",
   "  CDAP_PASSWORD_SUFFIX, CDAP_TEST_NAMESPACE, CDAP_NAMESPACE_PRINCIPAL,",
   "  CDAP_NAMESPACE_KEYTAB, CDAP_CACHE_INVALIDATE_PATH, CDAP_CACHE_STALENESS_SECS,",
   "  CDAP_MARKET_URL, CDAP_APP_ARTIFACT_VERSION, CDAP_APP_JAR_DIR,",
   "  CDAP_REQUEST_TIMEOUT_SECS, RUST_LOG",
   ""]

/-- What a command comes to: the status the program ends with, the lines it prints, and
what it complains about. -/
structure Answer where
  status : Nat
  output : List String
  complaint : Option String
  deriving DecidableEq, Repr

/-- The answer to a command that cannot be carried out. -/
def Answer.refusal (reason : String) : Answer := ⟨2, [], some ("cdap-itn: " ++ reason)⟩

/-- One line of a list of scenarios. -/
def listLine (s : Scenario) : String := Text.atLeft 14 s.suite.name ++ " " ++ s.name

/-- What is reported about one scenario. -/
structure Result where
  scenario : Scenario
  /-- How long it took, as it is written. -/
  time : String
  /-- Why it failed, if it did. -/
  complaint : Option String

namespace Result

/-- Whether the scenario failed. -/
def isFailure (r : Result) : Bool := r.complaint.isSome

/-- One line of a report. -/
def line (r : Result) : String :=
  let columns := Text.atLeft 14 r.scenario.suite.name ++ " " ++
    Text.atLeft 32 r.scenario.name ++ " " ++ r.time
  match r.complaint with
  | none => "PASS  " ++ columns
  | some reason => "FAIL  " ++ columns ++ "  " ++ reason

end Result

/-- The report on a list of scenarios. -/
def report (results : List Result) : Answer :=
  let failed := results.countP Result.isFailure
  ⟨if failed = 0 then 0 else 1,
   [""] ++ results.map Result.line ++
     ["", Nat.repr (results.length - failed) ++ " passed, " ++ Nat.repr failed ++ " failed"],
   none⟩

variable {m : Type → Type} [Monad m]

/-- Try scenarios one after the other, each in a context of its own; `timed` runs a trial and
says how long it took. -/
def tryAll (timed : (Unit → Trial) → m (Trial × String)) (settings : Settings)
    (env : Environment) : List Scenario → Transcript → m (List Result)
  | [], _ => return []
  | s :: rest, t => do
    let (trial, time) ← timed fun _ => s.trial settings env t
    let results ← tryAll timed settings env.nextContext rest trial.transcript
    return ⟨s, time, trial.complaint s.name⟩ :: results

/-- **Carry out what arguments ask for**, with settings from the variables that `lookup`
finds.  The settings are read only if scenarios are tried. -/
def carryOut (timed : (Unit → Trial) → m (Trial × String)) (lookup : String → Option String)
    (env : Environment) (args : List String) : m Answer :=
  match ofArguments args with
  | .error e => return .refusal e.message
  | .ok .help => return ⟨0, usage, none⟩
  | .ok (.list picked) => return ⟨0, picked.map listLine, none⟩
  | .ok (.run picked) =>
    match Settings.ofLookup lookup with
    | .error f => return .refusal ("loading CDAP_* configuration: " ++ f.message)
    | .ok settings => do
      let results ← tryAll timed settings env picked []
      return report results

end Command

end AccessHarness
