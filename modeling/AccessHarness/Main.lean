import AccessHarness.Cli
import AccessHarness.Session.Scripted
import Std.Time.DateTime.Timestamp

/-!
# The program

Reads arguments, variables and clocks, prints what the command line answers, and ends
with its status.  Everything that is decided is decided in `AccessHarness.Cli`.

**No transport.**  The program opens no connections of its own, so the platform is behind
a link that is down: what can be answered without a platform is answered, and a scenario
fails with a transport fault as soon as it needs one.
-/

namespace AccessHarness.Program

/-- The variables of the process that settings are read from. -/
def readVariables : List String → IO (List (String × String))
  | [] => return []
  | name :: rest => do
    let found ← IO.getEnv name
    let others ← readVariables rest
    match found with
    | some value => return (name, value) :: others
    | none => return others

/-- A number below `2 ^ 32` in eight hexadecimal digits. -/
def eightDigits (n : Nat) : String :=
  let digits := Nat.toDigits 16 n
  String.ofList (List.replicate (8 - digits.length) '0' ++ digits)

/-- The numbers below `2 ^ 32` that a generator yields. -/
def numbers (g : StdGen) : Nat → Nat
  | 0 => (randNat g 0 (UInt32.size - 1)).1
  | n + 1 => numbers (randNat g 0 (UInt32.size - 1)).2 n

/-- Texts at random. -/
def randomSuffixes : IO Suffixes := do
  let seed ← IO.rand 0 (UInt32.size - 1)
  return ⟨fun n => eightDigits (numbers (mkStdGen seed) n)⟩

/-- Nanoseconds as seconds with one decimal, in a column. -/
def secondsColumn (nanoseconds : Nat) : String :=
  let tenths := (nanoseconds + 50000000) / 100000000
  Text.atRight 7 (Nat.repr (tenths / 10) ++ "." ++ Nat.repr (tenths % 10)) ++ "s"

/-- Run a trial and say how long it took. -/
def timed (trial : Unit → Trial) : IO (Trial × String) := do
  let before ← IO.monoNanosNow
  let result ← IO.lazyPure trial
  let after ← IO.monoNanosNow
  return (result, secondsColumn (after - before))

/-- The outside of the program. -/
def environment : IO Environment := do
  let suffix ← randomSuffixes
  let now ← Std.Time.Timestamp.now
  return {
    respond := Link.down.through fun _ _ => .unreachable
    files := .empty
    suffix
    started := now.toMillisecondsSinceUnixEpoch.toInt.toNat }

end AccessHarness.Program

/-- **The program.** -/
def main (args : List String) : IO UInt32 := do
  let bindings ← AccessHarness.Program.readVariables AccessHarness.Settings.variableNames
  let env ← AccessHarness.Program.environment
  let answer ← AccessHarness.Command.carryOut AccessHarness.Program.timed
    (fun name => bindings.lookup name) env args
  for line in answer.output do
    IO.println line
  match answer.complaint with
  | some text => IO.eprintln text
  | none => pure ()
  return UInt32.ofNat answer.status
