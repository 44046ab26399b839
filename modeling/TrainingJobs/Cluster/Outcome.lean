/-
What comes of handing a job to a cluster. A job whose name is taken counts as handed over iff the job that holds the
name carries the same content hash; any other holder means that the job is refused.

- `reconcile_eq_ok_iff`: when a taken name is no obstacle.
-/
import TrainingJobs.Job.Submission

namespace TrainingJobs

inductive ApplyOutcome where
  | created
  /-- the same job is there already, and nothing changed -/
  | alreadyExists
deriving DecidableEq, Repr

def ApplyOutcome.text : ApplyOutcome → String
  | created => "Created"
  | alreadyExists => "AlreadyExists"

/-- the outcome for a submission whose name is held by a job with that content hash, if it has one -/
def reconcile (s : Submission) : Option String → Except Error ApplyOutcome
  | none => .error (.submission s.id .takenUnmarked)
  | some held =>
    if held = s.contentHash then .ok .alreadyExists
    else .error (.submission s.id (.takenByAnother held s.contentHash))

theorem reconcile_eq_ok_iff (s : Submission) (held : Option String) (outcome : ApplyOutcome) :
    reconcile s held = .ok outcome ↔ held = some s.contentHash ∧ outcome = .alreadyExists := by
  cases held with
  | none => simp [reconcile]
  | some h => by_cases e : h = s.contentHash <;> simp [reconcile, e, eq_comm]

end TrainingJobs
