import AccessHarness.Scenario.Context

/-!
# Checks of scenarios

What a scenario demands of an operation, inside a context: that it is allowed, that it is
denied, that it comes out as the ledger predicts, that it does not go through.
-/

namespace AccessHarness.ContextAct

variable {α : Type}

/-- Demand a condition. -/
def ensure (condition : Bool) (text : String) : ContextAct Unit :=
  ofOutcome (AccessHarness.ensure condition text)

/-- Demand a value. -/
def ensureEq [DecidableEq α] (shown : α → String) (actual expected : α) (what : String) :
    ContextAct Unit :=
  ofOutcome (AccessHarness.ensureEq shown actual expected what)

/-- **Demand that an operation is not denied**, and hand its value on. -/
def assertAllowed (p : Principal) (e : EntityId) (a : Action) (operation : Session α) :
    ContextAct α := do
  let observed ← Session.probe operation
  ofOutcome (observed.requireAllowed p e a)

/-- **Demand that an operation is denied.** -/
def assertDenied (p : Principal) (e : EntityId) (a : Action) (operation : Session α) :
    ContextAct Unit := do
  let observed ← Session.probe operation
  ofOutcome (observed.requireDenied p e a)

/-- Demand that an operation comes out as the ledger predicted before it ran. -/
def verifyPrediction (p : Principal) (requirements : List Requirement) (subject : String)
    (operation : ContextAct α) : ContextAct Unit := do
  let expectation ← expect p requirements
  let observed ← probe operation
  let _ ← ofOutcome (expectation.verify subject observed)
  return ()

/-- Demand that an operation does not go through. -/
def ensureRejected (shown : α → String) (what : String) (operation : Session α) :
    ContextAct Unit := do
  let observed ← Session.probe operation
  ofOutcome (observed.requireRejected shown what)

/-- The shown value of an operation without one. -/
def shownUnit (_ : Unit) : String := "()"

end AccessHarness.ContextAct
