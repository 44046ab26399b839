/-
A cluster that keeps its jobs in memory, for tests and for simulations of the operator: statuses are put in by hand, and
the cluster can be told to be slow, to refuse the next job, or to hide the status of a job.

Handing over a job takes several steps, between which other clients may act: the call is counted, the delay is read and
waited for, a refusal that has been ordered is taken, and the job is entered under its name.
-/
import TrainingJobs.Cluster.Outcome
import TrainingJobs.Job.Manifest
import TrainingJobs.Status.Snapshot
import TrainingJobs.Time

namespace TrainingJobs

structure StoredJob where
  submission : Submission
  manifest : Manifest
  /-- none until a status is put in -/
  status : Option Snapshot := none
deriving DecidableEq, Repr

structure LocalCluster where
  ns : String
  jobs : Dict StoredJob := ∅
  /-- jobs handed over so far, the refused ones too; the count wraps around -/
  calls : UInt64 := 0
  /-- the reason to refuse the next job -/
  rejection : Option String := none
  unavailable : Dict Unit := ∅
  /-- how long handing over a job takes -/
  applyDelay : Option Duration := none
deriving DecidableEq, Repr

namespace LocalCluster

/-- the number of jobs handed over, as it is told -/
def applyCalls (c : LocalCluster) : Nat := c.calls.toNat

/-- a job is handed over -/
def countCall (c : LocalCluster) : LocalCluster := { c with calls := c.calls + 1 }

/-- the refusal that has been ordered is used up -/
def takeRejection (c : LocalCluster) : LocalCluster := { c with rejection := none }

/-- the job gets its name, unless another job holds it -/
def enter (c : LocalCluster) (s : Submission) : Except Error ApplyOutcome × LocalCluster :=
  match c.jobs.find? s.id with
  | some held => (reconcile s (some held.submission.contentHash), c)
  | none =>
    let job : StoredJob := { submission := s, manifest := .ofSubmission s c.ns }
    (.ok .created, { c with jobs := c.jobs.insert s.id job })

/-- what remains of handing over a job once its delay is over -/
def takeIn (c : LocalCluster) (s : Submission) : Except Error ApplyOutcome × LocalCluster :=
  match c.rejection with
  | some reason => (.error (.submission s.id (.stated reason)), c.takeRejection)
  | none => c.enter s

/-- hands over a job without any delay -/
def apply (c : LocalCluster) (s : Submission) : Except Error ApplyOutcome × LocalCluster := c.countCall.takeIn s

/-- the status of a job; none if there is no such job -/
def status (c : LocalCluster) (job : String) : Except Error (Option Snapshot) :=
  if c.unavailable.contains job then .error (.transientStatus job "status endpoint unavailable")
  else .ok ((c.jobs.find? job).map fun held => held.status.getD (.ofAccepted job))

def delete (c : LocalCluster) (job : String) : Except Error LocalCluster :=
  if c.jobs.contains job then .ok { c with jobs := c.jobs.erase job } else .error (.jobNotFound job)

/-- puts in the status that its job reports from now on -/
def setStatus (c : LocalCluster) (s : Snapshot) : Except Error LocalCluster :=
  match c.jobs.find? s.job with
  | some held => .ok { c with jobs := c.jobs.insert s.job { held with status := some s } }
  | none => .error (.jobNotFound s.job)

def rejectNext (c : LocalCluster) (reason : String) : LocalCluster := { c with rejection := some reason }

def markUnavailable (c : LocalCluster) (job : String) : LocalCluster :=
  { c with unavailable := c.unavailable.insert job () }

def markAvailable (c : LocalCluster) (job : String) : LocalCluster :=
  { c with unavailable := c.unavailable.erase job }

def setApplyDelay (c : LocalCluster) (delay : Option Duration) : LocalCluster := { c with applyDelay := delay }

end LocalCluster

end TrainingJobs
