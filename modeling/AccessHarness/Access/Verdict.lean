import AccessHarness.Access.Ledger
import AccessHarness.Fault

/-!
# Verdicts

An operation run as some principal is *allowed*, *denied* or *failed*
(`Probe.ofOutcome`); only an authorization fault denies.  Two ways lead from a probe to
a verdict, and they agree:

* `Expectation.verify` compares it with what the ledger predicts;
* `requireAllowed` and `requireDenied` compare it with what a scenario demands of one
  principal, entity and action.

A failed operation is never taken for a denial: it says nothing about access.
-/

namespace AccessHarness

/-- What came of an operation run as some principal. -/
inductive Probe (α : Type) where
  /-- It went through. -/
  | allowed (value : α)
  /-- The platform refused the caller. -/
  | denied (fault : Fault)
  /-- Anything else went wrong. -/
  | failed (fault : Fault)
  deriving DecidableEq

namespace Probe

variable {α : Type}

/-- Classify an outcome. -/
def ofOutcome : Outcome α → Probe α
  | .ok v => .allowed v
  | .error f => if f.isAuthorization then .denied f else .failed f

/-- Whether the operation went through. -/
def isAllowed : Probe α → Bool
  | .allowed _ => true
  | _ => false

/-- Whether the caller was refused. -/
def isDenied : Probe α → Bool
  | .denied _ => true
  | _ => false

/-- The outcome that was classified. -/
def toOutcome : Probe α → Outcome α
  | .allowed v => .ok v
  | .denied f | .failed f => .error f

end Probe

/-- What the ledger predicts for an operation. -/
inductive Expectation where
  /-- Everything it needs was granted. -/
  | allowed
  /-- Something it needs was not. -/
  | denied (missing : List Privilege)
  deriving DecidableEq

/-- Predict whether an operation that needs all of `requirements` goes through. -/
def Ledger.expect (l : Ledger) (p : Principal) (requirements : List Requirement) :
    Expectation :=
  match l.missing p requirements with
  | [] => .allowed
  | missing => .denied missing

namespace Expectation

variable {α : Type}

/-- Whether the operation is expected to go through. -/
def isAllowed : Expectation → Bool
  | .allowed => true
  | .denied _ => false

/-- Compare a probe with the prediction; the value of an operation that was expected to
go through, and did, is handed on. -/
def verify (x : Expectation) (subject : String) (observed : Probe α) : Outcome (Option α) :=
  match x, observed with
  | .allowed, .allowed v => .ok (some v)
  | .denied _, .denied _ => .ok none
  | .allowed, .denied f =>
    .error (.expectation
      (subject ++ " was expected to be allowed but was denied: " ++ f.message))
  | .allowed, .failed f => .error f
  | .denied missing, .allowed _ =>
    .error (.expectation (subject ++ " was expected to be denied (missing " ++
      String.intercalate ", " (missing.map Privilege.display) ++ ") but succeeded"))
  | .denied _, .failed f =>
    .error (.expectation (subject ++ " was expected to be denied but failed with a " ++
      f.kind.name ++ " fault: " ++ f.message))

end Expectation

namespace Probe

variable {α : Type}

/-- `principal`, `action` and `entity` as a check names them. -/
def subjectOf (p : Principal) (verb : String) (a : Action) (e : EntityId) : String :=
  p.display ++ " should be " ++ verb ++ " " ++ a.display ++ " on " ++ e.display

/-- Demand that an operation is not denied, and hand its value on. -/
def requireAllowed (p : Principal) (e : EntityId) (a : Action) : Probe α → Outcome α
  | .allowed v => .ok v
  | .denied f =>
    .error (.expectation (subjectOf p "allowed" a e ++ " but was denied: " ++ f.message))
  | .failed f => .error f

/-- Demand that an operation is denied. -/
def requireDenied (p : Principal) (e : EntityId) (a : Action) : Probe α → Outcome Unit
  | .denied _ => .ok ()
  | .allowed _ =>
    .error (.expectation (subjectOf p "denied" a e ++ " but the operation succeeded"))
  | .failed f =>
    .error (.expectation (subjectOf p "denied" a e ++ " but the operation failed with a " ++
      f.kind.name ++ " fault: " ++ f.message))

/-- Demand that an operation does not go through, for whatever reason. -/
def requireRejected (shown : α → String) (what : String) : Probe α → Outcome Unit
  | .allowed v =>
    .error (.expectation (what ++ " should have failed but returned " ++ shown v))
  | .denied _ | .failed _ => .ok ()

end Probe

/-- Demand a condition. -/
def ensure (condition : Bool) (text : String) : Outcome Unit :=
  if condition then .ok () else .error (.expectation text)

/-- Demand that a value is the expected one. -/
def ensureEq {α : Type} [DecidableEq α] (shown : α → String) (actual expected : α)
    (what : String) : Outcome Unit :=
  ensure (actual == expected) (what ++ ": expected " ++ shown expected ++ ", got " ++ shown actual)

end AccessHarness
