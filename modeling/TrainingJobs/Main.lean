/-
The command itself: reads the files that its arguments name and prints what the command line makes of them.
-/
import TrainingJobs.CommandLine

namespace TrainingJobs

/-- the content of a file, if it can be read -/
def fileContent (path : String) : IO (Option String) := do
  match ← (IO.FS.readFile path).toBaseIO with
  | .ok content => pure (some content)
  | .error _ => pure none

end TrainingJobs

def main (arguments : List String) : IO UInt32 := do
  let outcome := TrainingJobs.CommandLine.run (← arguments.mapM TrainingJobs.fileContent)
  IO.print outcome.stdout
  unless outcome.stderr.isEmpty do IO.eprintln outcome.stderr
  pure (UInt32.ofNat outcome.code)
