/-
The command line: `render-job <task.json> [config.json]` prints the type of a declared task and, if it becomes a job,
the manifest of the job. Nothing is sent to a cluster. The settings are read before the task; a failure prints its first
line only as far as the kind of failure, unless the declaration itself is at fault.
-/
import TrainingJobs.Job.Manifest
import TrainingJobs.Plan
import TrainingJobs.Text.Quoted

namespace TrainingJobs.CommandLine

inductive Failure where
  | usage
  | noSettings
  | malformedSettings
  | noTask
  | malformedTask
  | misconfigured (cause : Misconfiguration)
deriving DecidableEq, Repr

def usage : String := "usage: render-job <task.json> [config.json]"

/-- the line that reports a failure -/
def Failure.line : Failure → String
  | usage => "Error: " ++ Text.quoted CommandLine.usage
  | noSettings => "Error: Io"
  | malformedSettings => "Error: Serialization"
  | noTask => "Error: Os"
  | malformedTask => "Error: Error"
  | misconfigured cause => "Error: Configuration \x7b message: " ++ Text.quoted cause.message ++ " \x7d"

/-- what a run leaves: its exit code and what it prints -/
structure Outcome where
  code : Nat
  stdout : String
  stderr : String
deriving DecidableEq, Repr

/-- the settings of the second file, or the defaults without one -/
def readSettings : List (Option String) → Except Failure Settings
  | [] => .ok {}
  | none :: _ => .error .noSettings
  | some text :: _ => (Settings.parse text).mapError fun _ => .malformedSettings

def readTask : Option String → Except Failure TaskDeclaration
  | none => .error .noTask
  | some text => (TaskDeclaration.parse text).mapError fun _ => .malformedTask

/-- what is printed of a plan -/
def printed (plan : Plan) (ns : String) : String :=
  let heading := "task_type: " ++ plan.taskType.tag ++ "\n"
  match plan.submission? with
  | none => heading
  | some s => heading ++ (Manifest.ofSubmission s ns).toJson.pretty ++ "\n"

/-- what the command prints; of each file named it gets the content, or nothing if there is no such file -/
def render : List (Option String) → Except Failure String
  | [] => .error .usage
  | task :: others => do
    let settings ← readSettings others
    let task ← readTask task
    let plan ← (Plan.ofDeclaration settings.job task).mapError .misconfigured
    pure (printed plan settings.submit.ns)

def run (files : List (Option String)) : Outcome :=
  match render files with
  | .ok text => ⟨0, text, ""⟩
  | .error failure => ⟨1, "", failure.line⟩

end TrainingJobs.CommandLine
