import AccessHarness.Access.Verdict
import AccessHarness.Session.Files
import AccessHarness.Session.Transcript
import AccessHarness.Wait.Loop

/-!
# Sessions

A session is a program of the harness: it sends requests, sleeps and reads files, it
fails or succeeds, and it leaves a transcript.

* `Environment` is everything outside: the platform and how long it takes, the files, the
  time of day, the texts that make names unique.
* `Session α` runs in an environment and extends a transcript.

**The platform is a function.**  Whatever a platform does, its next reply is determined
by what happened so far and by the request; `Environment.respond` is that function, and
nothing is assumed of it.  "For every sequence of answers" is then "for every
environment".  A `Reply` is what the HTTP client hands back: which redirects it followed and
which parts of a URL it sent on is its own affair (`AccessHarness.Session.Transcript`).

**So is the clock.**  A request takes whatever time `Environment.latency` says at that
moment, a sleep takes exactly what it asks for, and nothing else takes time; what time it
is can be told from what happened so far (`Environment.clock`).

**Names are unique by drawing.**  Each context of a run draws a text of its own, so an
environment holds one text for every context that is still to be opened (`Suffixes`).
-/

namespace AccessHarness

/-- **The texts that make names unique**, one for each context in the order in which they
are opened. -/
structure Suffixes where
  draw : Nat → String

namespace Suffixes

/-- The text for the next context. -/
def first (s : Suffixes) : String := s.draw 0

/-- The texts for the contexts after it. -/
def rest (s : Suffixes) : Suffixes := ⟨fun n => s.draw (n + 1)⟩

/-- One text for every context, as a rehearsal draws them. -/
instance : Coe String Suffixes := ⟨fun text => ⟨fun _ => text⟩⟩

end Suffixes

/-- **Everything outside the harness.** -/
structure Environment where
  /-- The reply to a request after what happened so far. -/
  respond : Transcript → Request → Reply
  /-- The files that can be read. -/
  files : FileSystem
  /-- The texts for the contexts that are still to be opened. -/
  suffix : Suffixes
  /-- The time of day at the start, in milliseconds. -/
  started : Nat
  /-- How long a request takes after what happened so far. -/
  latency : Transcript → Request → Nat := fun _ _ => 0

namespace Environment

/-- What is outside once a context has been tried: the text for it is used up. -/
def nextContext (env : Environment) : Environment := { env with suffix := env.suffix.rest }

/-- The time the requests took. -/
def requestTime (env : Environment) : Transcript → Nat
  | [] => 0
  | .slept _ :: t => env.requestTime t
  | .exchanged request _ :: t => env.requestTime t + env.latency t request

/-- **The time that has passed**: what was slept, and what the requests took. -/
def clock (env : Environment) (t : Transcript) : Nat := t.slept + env.requestTime t

@[simp] theorem clock_slept (env : Environment) (d : Nat) (t : Transcript) :
    env.clock (.slept d :: t) = env.clock t + d :=
  Nat.add_right_comm t.slept d (env.requestTime t)

@[simp] theorem clock_exchanged (env : Environment) (request : Request) (reply : Reply)
    (t : Transcript) :
    env.clock (.exchanged request reply :: t) = env.clock t + env.latency t request :=
  (Nat.add_assoc _ _ _).symm

/-- How transcripts keep time. -/
@[reducible] def timeline (env : Environment) : Timeline Transcript where
  now := env.clock
  sleep d t := .slept d :: t

end Environment

/-- **A program of the harness.** -/
abbrev Session (α : Type) := ReaderT Environment (Act Transcript) α

namespace Session

variable {α β : Type}

/-- Run a session from a transcript. -/
def run (m : Session α) (env : Environment) (t : Transcript) : Outcome α × Transcript :=
  m env t

/-- Take an outcome over. -/
def ofOutcome (r : Outcome α) : Session α := fun _ t => (r, t)

/-- The outcome of a session as its value: the session itself then never fails. -/
def attempt (m : Session α) : Session (Outcome α) := fun env t =>
  let (r, t') := m env t
  (.ok r, t')

/-- Send a request and take the answer, whatever its status.  A request that cannot be
sent over the web goes nowhere. -/
def send (r : Request) : Session Response := fun env t =>
  if r.url.isWeb then
    match env.respond t r with
    | .answered response => (.ok response, .exchanged r (.answered response) :: t)
    | reply => (.error .transport, .exchanged r reply :: t)
  else (.error .transport, t)

/-- Let time pass. -/
def sleep (d : Nat) : Session Unit := fun _ t => (.ok (), .slept d :: t)

/-- The time of day, in milliseconds. -/
def timeOfDay : Session Nat := fun env t =>
  (.ok (env.started + Duration.millis (env.clock t)), t)

/-- The content of a file. -/
def fileContent (path : String) : Session (List UInt8) := fun env t =>
  match env.files.content path with
  | .ok content => (.ok content, t)
  | .error e => (.error (.configuration ("cannot read " ++ path ++ ": " ++ e.message)), t)

/-- Wait until a value of an operation is accepted. -/
def waitForValue (w : WaitSpec) (operation : Session α) (accept : α → Bool)
    (shown : α → String) : Session α := fun env =>
  letI := env.timeline
  w.waitForValue (operation env) accept shown

/-- Wait until an operation yields one value. -/
def waitFor [DecidableEq α] (w : WaitSpec) (expected : α) (operation : Session α)
    (shown : α → String) : Session α := fun env =>
  letI := env.timeline
  w.waitFor expected (operation env) shown

/-- Wait until an operation yields `true`. -/
def waitUntil (w : WaitSpec) (operation : Session Bool) : Session Unit := fun env =>
  letI := env.timeline
  w.waitUntil (operation env)

/-- Run an operation and classify what comes of it. -/
def probe (m : Session α) : Session (Probe α) := fun env t =>
  let (r, t') := m env t
  (.ok (.ofOutcome r), t')

/-! ### How a run goes on

A step of a session that fails ends it; the transcript is kept either way. -/

theorem run_bind (m : Session α) (k : α → Session β) (env : Environment) (t : Transcript) :
    (m >>= k).run env t =
      match m.run env t with
      | (.ok a, t') => (k a).run env t'
      | (.error f, t') => (.error f, t') := by
  simp only [run, bind, ReaderT.bind, ExceptT.bind, ExceptT.mk, StateT.bind, ExceptT.bindCont]
  rcases m env t with ⟨_ | _, _⟩ <;> rfl

end Session

end AccessHarness
