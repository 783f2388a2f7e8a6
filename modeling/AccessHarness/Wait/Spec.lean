import AccessHarness.Fault

/-!
# What a wait is

A wait has a description, a timeout and an interval.  The platform is eventually
consistent almost everywhere, so there is a named wait for each kind of transition;
`WaitSpec.scaled` stretches one for a slow platform and `WaitSpec.validate` refuses one
that could not make progress.
-/

namespace AccessHarness

/-- Timeout, interval and a description of one wait. -/
structure WaitSpec where
  description : String
  timeout : Nat
  interval : Nat
  deriving DecidableEq, Repr

namespace WaitSpec

/-- A program starts or stops. -/
def programStartStop (description : String) : WaitSpec :=
  ⟨description, Duration.ofSeconds 120, Duration.ofSeconds 1⟩

/-- A program has processed its first input, or has ended. -/
def programFirstProcessed (description : String) : WaitSpec :=
  ⟨description, Duration.ofSeconds 240, Duration.ofSeconds 1⟩

/-- A plugin becomes available. -/
def pluginAvailability (description : String) : WaitSpec :=
  ⟨description, Duration.ofSeconds 300, Duration.ofSeconds 3⟩

/-- A workflow completes. -/
def workflowCompletion (description : String) : WaitSpec :=
  ⟨description, Duration.ofSeconds 600, Duration.ofSeconds 5⟩

/-- The named waits. -/
def named : List (String × (String → WaitSpec)) :=
  [("program_start_stop", programStartStop), ("program_first_processed", programFirstProcessed),
   ("plugin_availability", pluginAvailability), ("workflow_completion", workflowCompletion)]

/-- The same timing under another description. -/
def describe (w : WaitSpec) (description : String) : WaitSpec := { w with description }

/-- A duration times a factor, unless that is longer than any duration. -/
def scaleDuration (description : String) (factor : Nat) (d : Nat) : Outcome Nat :=
  if d * factor ≤ Duration.longest then .ok (d * factor)
  else .error (.configuration ("scaling '" ++ description ++ "' by " ++ Nat.repr factor ++
    " overflows " ++ Duration.shown d))

/-- Timeout and interval times a factor. -/
def scaled (w : WaitSpec) (factor : Nat) : Outcome WaitSpec := do
  let timeout ← scaleDuration w.description factor w.timeout
  let interval ← scaleDuration w.description factor w.interval
  return { w with timeout, interval }

/-- **Whether the wait can make progress.**  A zero timeout means one evaluation, with
any interval; otherwise the interval is positive and shorter than the timeout. -/
def validate (w : WaitSpec) : Outcome Unit :=
  if w.timeout = 0 then .ok ()
  else if w.interval = 0 then
    .error (.configuration ("poll interval for '" ++ w.description ++ "' must be non-zero"))
  else if w.timeout ≤ w.interval then
    .error (.configuration ("poll interval " ++ Duration.shown w.interval ++ " for '" ++
      w.description ++ "' must be shorter than the timeout " ++ Duration.shown w.timeout))
  else .ok ()

theorem validate_eq_ok_iff (w : WaitSpec) :
    w.validate = .ok () ↔ w.timeout = 0 ∨ (0 < w.interval ∧ w.interval < w.timeout) := by
  simp only [validate]
  split
  · simp_all
  · split
    · simp_all
    · split
      · simp only [reduceCtorEq, false_iff]; omega
      · simp only [true_iff]; omega

/-- A valid wait with something to wait for has a positive interval. -/
theorem interval_pos_of_validate {w : WaitSpec} (h : w.validate = .ok ())
    (ht : w.timeout ≠ 0) : 0 < w.interval := by
  rcases (validate_eq_ok_iff w).1 h with h | h
  · exact absurd h ht
  · exact h.1

end WaitSpec

end AccessHarness
