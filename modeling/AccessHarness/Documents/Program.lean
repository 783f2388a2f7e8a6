import AccessHarness.Json.Document
import AccessHarness.Text.Quoted

/-!
# Documents about programs

The state of a program, the state of one of its runs, and the record of a run.
-/

namespace AccessHarness

open Json

/-- The state of a program. -/
inductive ProgramStatus where
  | starting | running | stopping | stopped
  deriving DecidableEq, Repr

namespace ProgramStatus

/-- The state in a document. -/
def display : ProgramStatus → String
  | .starting => "STARTING"
  | .running => "RUNNING"
  | .stopping => "STOPPING"
  | .stopped => "STOPPED"

/-- The state as a value in a message. -/
def shown : ProgramStatus → String
  | .starting => "Starting"
  | .running => "Running"
  | .stopping => "Stopping"
  | .stopped => "Stopped"

/-- Every state with its name. -/
def wireNames : List (String × ProgramStatus) :=
  [.starting, .running, .stopping, .stopped].map fun s => (s.display, s)

/-- The document of a state. -/
def toJson (s : ProgramStatus) : Json := .str s.display

/-- Read a state. -/
def decoder : Decoder ProgramStatus := Decoder.choice wireNames

/-- Read the state from the answer about a program. -/
def answerDecoder : Decoder ProgramStatus := fun room j => do
  let r ← Row.read ["status"] room j
  r.required "status" decoder

instance : Document ProgramStatus := ⟨toJson, decoder⟩

end ProgramStatus

/-- The state of a run. -/
inductive RunStatus where
  | pending | starting | running | suspended | completed | failed | killed
  deriving DecidableEq, Repr

namespace RunStatus

/-- The state in documents and queries. -/
def display : RunStatus → String
  | .pending => "PENDING"
  | .starting => "STARTING"
  | .running => "RUNNING"
  | .suspended => "SUSPENDED"
  | .completed => "COMPLETED"
  | .failed => "FAILED"
  | .killed => "KILLED"

/-- The state as a value in a message. -/
def shown : RunStatus → String
  | .pending => "Pending"
  | .starting => "Starting"
  | .running => "Running"
  | .suspended => "Suspended"
  | .completed => "Completed"
  | .failed => "Failed"
  | .killed => "Killed"

/-- Every state with its name. -/
def wireNames : List (String × RunStatus) :=
  [.pending, .starting, .running, .suspended, .completed, .failed, .killed].map fun s =>
    (s.display, s)

/-- Whether a run in this state has ended. -/
def isTerminal : RunStatus → Bool
  | .completed | .failed | .killed => true
  | _ => false

/-- The document of a state. -/
def toJson (s : RunStatus) : Json := .str s.display

/-- Read a state. -/
def decoder : Decoder RunStatus := Decoder.choice wireNames

instance : Document RunStatus := ⟨toJson, decoder⟩

end RunStatus

/-- The record of a run. -/
structure RunRecord where
  runId : String
  status : RunStatus
  start : Option Int
  stop : Option Int
  deriving DecidableEq, Repr

namespace RunRecord

/-- The document of a record. -/
def toJson (r : RunRecord) : Json :=
  .obj [("runid", .str r.runId), ("status", r.status.toJson),
    ("start", ofOption .ofInt r.start), ("end", ofOption .ofInt r.stop)]

/-- Read a record. -/
def decoder : Decoder RunRecord := fun room j => do
  let r ← Row.read ["runid", "status", "start", "end"] room j
  let runId ← r.required "runid" Decoder.string
  let status ← r.required "status" RunStatus.decoder
  let start ← r.optional "start" Decoder.int64
  let stop ← r.optional "end" Decoder.int64
  return ⟨runId, status, start, stop⟩

/-- A record as a value in a message. -/
def shown (r : RunRecord) : String :=
  Text.shownRecord "RunRecord" [("runid", Text.quoted r.runId), ("status", r.status.shown),
    ("start", Text.shownOption Text.shownInt r.start), ("end", Text.shownOption Text.shownInt r.stop)]

instance : Document RunRecord := ⟨toJson, decoder⟩

end RunRecord

end AccessHarness
