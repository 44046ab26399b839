/-
Submitting a plan: a job is handed over to the cluster, and a plan for one process makes no call on it. A job that is
there already counts as submitted.
-/
import TrainingJobs.Cluster.Client
import TrainingJobs.Plan

namespace TrainingJobs

/-- what comes of submitting a plan -/
inductive SubmitOutcome where
  /-- the host runs the task itself -/
  | runsLocally
  | submitted (job : String) (outcome : ApplyOutcome)
deriving DecidableEq, Repr

namespace SubmitOutcome

def taskType : SubmitOutcome → TaskType
  | runsLocally => .singleProcess
  | submitted .. => .distributed

def job? : SubmitOutcome → Option String
  | runsLocally => none
  | submitted job _ => some job

def text : SubmitOutcome → String
  | runsLocally => "Local"
  | submitted _ outcome => outcome.text

/-- the outcome of handing over the job of a plan -/
def ofApply (s : Submission) (outcome : Except Error ApplyOutcome) : Except Error SubmitOutcome :=
  outcome.map (submitted s.id)

end SubmitOutcome

namespace Call

/-- submits a plan through the API server -/
def submit (ns : String) (plan : Plan) (net : Transport := .http) : Call (Except Error SubmitOutcome) :=
  match plan with
  | .singleProcess => .done (.ok .runsLocally)
  | .distributed s => (apply ns s net).map (SubmitOutcome.ofApply s)

end Call

end TrainingJobs
