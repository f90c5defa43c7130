import Calculator.CommandLine.Run

/-!
# The program

Carries out what the library says: it looks up the environment and the settings file, reads the
lines of a conversation one by one, and writes every event where it belongs.
-/

namespace Calculator.CommandLine

/-- What a path leads to on this machine. -/
def lookUpPath (path : String) : IO Found := do
  match ← (IO.FS.readFile path).toBaseIO with
  | .ok text => return .file text
  | .error (.inappropriateType ..) => return .directory
  | .error _ => return .nothing

/-- Where a thousand calls fit inside each other, this many of them are left for the values of a
settings file. -/
def roomForValues : Nat := 980

/-- What a run with some arguments can see of this machine. -/
def lookAround (arguments : List String) : IO Surroundings := do
  let values ← Settings.overrides.mapM fun override =>
    return (override.1, (← IO.getEnv override.1))
  let found ← lookUpPath (settingsPath arguments)
  return {
    environment := fun name => (values.lookup name).bind id
    find := fun _ => found
    platform := "Lean 4"
    room := roomForValues }

/-- Write one event where it belongs. -/
def writeEvent (level : LogLevel) (event : Event) : IO Unit := do
  let output ← IO.getStdout
  output.putStr event.outputPart
  output.flush
  (← IO.getStderr).putStr (event.errorPart level)

/-- Write what an ending says, and give the exit status. -/
def finish (ending : Ending) : IO UInt32 := do
  match ending with
  | .refused reason => IO.eprintln reason.message
  | .broken breakdown => IO.eprintln breakdown.message
  | .success | .failure => pure ()
  return ending.status.toUInt32

/-- Write an outcome. -/
def writeOutcome (level : LogLevel) (outcome : Outcome) : IO UInt32 := do
  outcome.events.forM (writeEvent level)
  finish outcome.ending

/-- The lines that were read ahead, or the next ones; none at the end of the input. -/
def nextLines (ahead : List String) : IO (List String) := do
  if ahead.isEmpty then
    return inputLines (← (← IO.getStdin).getLine)
  return ahead

/-- Hold a conversation; some lines may have been read ahead. -/
partial def talk (session : Session) (ahead : List String) : IO UInt32 := do
  let level := session.settings.logLevel
  session.invitation.forM (writeEvent level)
  match ← nextLines ahead with
  | [] => writeOutcome level ⟨session.endOfLines, .success⟩
  | line :: rest =>
      match session.enter line with
      | .over outcome => writeOutcome level outcome
      | .next events session =>
          events.forM (writeEvent level)
          talk session rest

end Calculator.CommandLine

open Calculator.CommandLine in
/-- Run the program. -/
def main (arguments : List String) : IO UInt32 := do
  match prepare (← lookAround arguments) arguments with
  | .error outcome => writeOutcome Calculator.Settings.default.logLevel outcome
  | .ok ⟨settings, .repl prompt⟩ => talk (.start settings prompt) []
  | .ok job => writeOutcome job.settings.logLevel (job.outcome "")
