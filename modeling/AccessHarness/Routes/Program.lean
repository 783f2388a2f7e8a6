import AccessHarness.Documents.Data
import AccessHarness.Documents.Program
import AccessHarness.Rest.Client

/-!
# Program routes

Starting, stopping and watching programs.  A program changes its state in its own time,
so besides the plain routes there are waits: for a state, for a run, for a number of
runs, for a service to answer.
-/

namespace AccessHarness.RestClient

/-- Start a program; arguments are sent only if there are any. -/
def startProgram (c : RestClient) (p : ProgramId) (args : Properties) : Session Unit :=
  c.post (Route.program p "start") (if args.isEmpty then .empty else .json args.toJson)

/-- Stop a program. -/
def stopProgram (c : RestClient) (p : ProgramId) : Session Unit :=
  c.postEmpty (Route.program p "stop")

/-- The state of a program. -/
def programStatus (c : RestClient) (p : ProgramId) : Session ProgramStatus :=
  c.get ProgramStatus.answerDecoder (Route.program p "status")

/-- The path of the runs of a program, of all or of those in one state. -/
def runsPath (p : ProgramId) (status : Option RunStatus) : String :=
  Route.program p "runs" ++
    (match status with
     | some s => "?status=" ++ s.display
     | none => "")

/-- The runs of a program, all or those in one state. -/
def programRuns (c : RestClient) (p : ProgramId) (status : Option RunStatus) :
    Session (List RunRecord) :=
  c.get (Json.Decoder.list RunRecord.decoder) (runsPath p status)

/-- Wait until a program is in a state. -/
def waitForStatus (c : RestClient) (p : ProgramId) (status : ProgramStatus) (w : WaitSpec) :
    Session Unit := do
  let _ ← Session.waitFor w status (c.programStatus p) ProgramStatus.shown
  return ()

/-- Wait until some run is in a state, and return it. -/
def waitForRun (c : RestClient) (p : ProgramId) (status : RunStatus) (w : WaitSpec) :
    Session RunRecord := do
  let runs ← Session.waitForValue w (c.programRuns p (some status)) (fun rs => !rs.isEmpty)
    (Text.shownList RunRecord.shown)
  match runs with
  | r :: _ => return r
  | [] => throw (.expectation ("no " ++ status.display ++ " run of " ++ p.name))

/-- Wait until exactly a number of runs are in a state. -/
def waitForRuns (c : RestClient) (p : ProgramId) (status : RunStatus) (count : Nat)
    (w : WaitSpec) : Session (List RunRecord) :=
  Session.waitForValue w (c.programRuns p (some status)) (fun rs => rs.length == count)
    (Text.shownList RunRecord.shown)

/-- What an answer says about the availability of a service. -/
def availability (status : Nat) : Outcome Bool :=
  if status = 200 then .ok true
  else if status = 404 ∨ status = 503 then .ok false
  else .error (Fault.ofResponse status "")

/-- Wait for a service to answer, and return the URL its methods are below. -/
def serviceUrl (c : RestClient) (service : ProgramId) (w : WaitSpec) : Session Url := do
  Session.waitUntil w do
    let r ← c.probe (Route.program service "available")
    Session.ofOutcome (availability r.status)
  Session.ofOutcome (c.url (Route.program service "methods" ++ "/"))

end AccessHarness.RestClient
