import AccessHarness.Wait.Spec

/-!
# Waiting for a condition

A wait evaluates an operation until its value is accepted.  A missing thing means "not
yet"; any other fault ends the wait at once.  Between two evaluations the wait sleeps for
the interval, or for what is left of the timeout if that is less, so a wait that never
succeeds ends at or after its timeout and evaluates the operation once more at the very
end.

* `Act σ α` is an operation on a state: it fails or succeeds, and leaves a state either
  way.
* `Timeline σ` says how a state keeps time.
* `waitForValue` is the wait; `waitFor` waits for one value, `waitUntil` for `true`.

### Why it ends

What has elapsed is the sum of the times the evaluations took and of the sleeps, and
every sleep of a valid wait is positive: the part of the timeout that is left shrinks
from evaluation to evaluation, however long or short the evaluations are.
-/

namespace AccessHarness

/-- **An operation on a state.**  It fails or succeeds, and leaves a state either way. -/
abbrev Act (σ α : Type) := ExceptT Fault (StateM σ) α

/-- How a state keeps time. -/
class Timeline (σ : Type) where
  /-- The time that has passed so far. -/
  now : σ → Nat
  /-- Let time pass. -/
  sleep : Nat → σ → σ

/-- What one evaluation tells a wait. -/
inductive Observation (α : Type) where
  /-- The condition is met. -/
  | met (value : α)
  /-- It is not met yet; what was seen instead. -/
  | notYet (seen : String)
  /-- It cannot be met. -/
  | broken (fault : Fault)

/-- Read an outcome as an observation. -/
def Observation.ofOutcome {α : Type} (accept : α → Bool) (shown : α → String) :
    Outcome α → Observation α
  | .ok v => if accept v then .met v else .notYet (shown v)
  | .error f => if f.isRetryable then .notYet f.message else .broken f

namespace WaitSpec

variable {σ α : Type} [Timeline σ]

/-- How long to sleep when `elapsed` has passed. -/
def pause (w : WaitSpec) (elapsed : Nat) : Nat := min w.interval (w.timeout - elapsed)

/-- Evaluate until the condition is met, it cannot be met, or the timeout has passed;
`elapsed` is the time since the start.  The evaluations are not counted: a number of
attempts is for the log, and the log is left out. -/
def poll (w : WaitSpec) (valid : w.validate = .ok ()) (operation : Act σ α)
    (accept : α → Bool) (shown : α → String) (elapsed : Nat) : Act σ α := fun s =>
  match operation s with
  | (outcome, s') =>
    let passed := elapsed + (Timeline.now s' - Timeline.now s)
    match Observation.ofOutcome accept shown outcome with
    | .met v => (.ok v, s')
    | .broken f => (.error f, s')
    | .notYet seen =>
      if _h : w.timeout ≤ passed then (.error (.timeout w.description seen passed), s')
      else
        w.poll valid operation accept shown (passed + w.pause passed)
          (Timeline.sleep (w.pause passed) s')
termination_by w.timeout - elapsed
decreasing_by
  have := interval_pos_of_validate valid (by omega)
  simp only [pause]
  omega

/-- **Wait until a value is accepted.** -/
def waitForValue (w : WaitSpec) (operation : Act σ α) (accept : α → Bool)
    (shown : α → String) : Act σ α :=
  match h : w.validate with
  | .ok () => w.poll h operation accept shown 0
  | .error f => throw f

/-- Wait until the operation yields one value. -/
def waitFor [DecidableEq α] (w : WaitSpec) (expected : α) (operation : Act σ α)
    (shown : α → String) : Act σ α :=
  w.waitForValue operation (fun v => v == expected) shown

/-- Wait until the operation yields `true`. -/
def waitUntil (w : WaitSpec) (operation : Act σ Bool) : Act σ Unit := do
  let _ ← w.waitFor true operation fun b => if b then "true" else "false"
  return ()

end WaitSpec

/-! ### Rehearsals -/

/-- **A rehearsal** of a wait: how many evaluations there were, and what time it is. -/
structure Rehearsal where
  evaluations : Nat
  clock : Nat
  deriving DecidableEq, Repr

namespace Rehearsal

/-- Before the first evaluation. -/
def start : Rehearsal := ⟨0, 0⟩

instance : Timeline Rehearsal where
  now s := s.clock
  sleep d s := { s with clock := s.clock + d }

/-- An operation whose outcomes are given in advance, and the time each evaluation
takes. -/
def operation {α : Type} (outcomes : Nat → Outcome α) (cost : Nat → Nat) :
    Act Rehearsal α := fun s =>
  (outcomes s.evaluations,
    { evaluations := s.evaluations + 1, clock := s.clock + cost s.evaluations })

end Rehearsal

end AccessHarness
