import AccessHarness.Scenario.Registry

/-!
# Trials

One scenario from the opening of its context to its cleanup.  The cleanup follows
whatever the scenario came to; what the trial reports is the first of the three parts
that failed.
-/

namespace AccessHarness

/-- **What came of a scenario.** -/
inductive Trial where
  /-- Its context could not be opened. -/
  | notOpened (fault : Fault) (after : Transcript)
  /-- Its context was opened, the scenario was run in it, and it was cleaned up. -/
  | ran (opened : Transcript) (outcome : Outcome Unit) (settled : ContextState)
      (cleanup : Outcome Unit) (after : ContextState)

namespace Trial

/-- Open a context, run a scenario in it, clean up. -/
def begin (settings : Settings) (body : Context → ContextAct Unit) (env : Environment)
    (t : Transcript) : Trial :=
  match (Context.begin settings).run env t with
  | (.error f, after) => .notOpened f after
  | (.ok c, opened) =>
    let (outcome, settled) := body c env (.start opened)
    let (cleanup, after) := c.teardown env settled
    .ran opened outcome settled cleanup after

/-- All that happened, up to the end of the trial. -/
def transcript : Trial → Transcript
  | .notOpened _ after => after
  | .ran _ _ _ _ after => after.access.transcript

/-- A failure as it is reported. -/
def described (f : Fault) : String := f.kind.name ++ ": " ++ f.message

/-- Why a trial failed, if it did. -/
def complaint (scenario : String) : Trial → Option String
  | .notOpened f _ => some ("setting up " ++ scenario ++ ": " ++ f.message)
  | .ran _ (.error f) _ _ _ => some (described f)
  | .ran _ (.ok ()) _ (.error f) _ => some ("teardown: " ++ described f)
  | .ran _ (.ok ()) _ (.ok ()) _ => none

end Trial

/-- Try a scenario. -/
def Scenario.trial (s : Scenario) (settings : Settings) (env : Environment) (t : Transcript) :
    Trial :=
  Trial.begin settings s.run env t

end AccessHarness
