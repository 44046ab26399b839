/-
Sessions of a submitter with a cluster in memory. The clock moves only while an operation waits; what the watches do
before the end of the wait happens in the meantime, and an operation that does not wait lets them do nothing.
-/
import TrainingJobs.Cluster.Local
import TrainingJobs.Cluster.Submit
import TrainingJobs.Watch

namespace TrainingJobs

/-- what a reader of a watch gets -/
inductive Delivery where
  | report (r : PhaseReport)
  /-- no more reports will come -/
  | ended
  | timedOut
  | noWatch
deriving DecidableEq, Repr

structure Session where
  settings : Settings
  cluster : LocalCluster
  now : Nat := 0
  timer : Timer := .clock64
  /-- how long reading a status takes -/
  statusDelay : Option Duration := none
  /-- by name -/
  watches : Dict Watch := ∅
  /-- watches whose readers have gone away -/
  dropped : List Watch := []
  /-- the signal to shut down cannot be given any more -/
  closed : Bool := false

namespace Session

def start (settings : Settings) (ns : String) : Session := { settings, cluster := { ns } }

def watchSetting (s : Session) : WatchSetting where
  read := s.cluster.status
  delay := s.statusDelay
  timeout := s.settings.status.requestTimeout
  interval := s.settings.status.pollInterval
  timer := s.timer

/-- all watches after what they do before `limit` -/
def runWatches (s : Session) (limit : Nat) : Session :=
  let run := fun (w : Watch) => w.runBefore s.watchSetting s.now limit
  { s with watches := s.watches.map fun _ w => run w, dropped := s.dropped.map run }

def waitUntil (s : Session) (time : Nat) : Session := { s.runWatches time with now := time }

/-- nothing happens for that long -/
def wait (s : Session) (milliseconds : Nat) : Session :=
  s.waitUntil (s.now + s.timer.span (.ofMilliseconds milliseconds))

/-- changes every watch -/
def mapWatches (s : Session) (f : Watch → Watch) : Session :=
  { s with watches := s.watches.map fun _ w => f w, dropped := s.dropped.map f }

/-- the job is handed over, as far as its delay; then the cluster takes it in -/
def takeIn (s : Session) (submission : Submission) : Except Error ApplyOutcome × Session :=
  let (outcome, cluster) := s.cluster.takeIn submission
  (outcome, { s with cluster })

/-- hands a job over, however long it takes -/
def apply (s : Session) (submission : Submission) : Except Error ApplyOutcome × Session :=
  let s := { s with cluster := s.cluster.countCall }
  (s.waitUntil (s.now + s.timer.delay s.cluster.applyDelay)).takeIn submission

/-- submits a plan within the time for it; what is cut short leaves nothing behind but the count of the call -/
def submit (s : Session) : Plan → Except Error SubmitOutcome × Session
  | .singleProcess => (.ok .runsLocally, s)
  | .distributed submission =>
    let timeout := s.settings.submit.applyTimeout
    let wait := s.timer.bounded s.cluster.applyDelay timeout
    let s := { s with cluster := s.cluster.countCall }.waitUntil (s.now + wait.duration)
    if wait.cut then (.error (.timeout ("apply " ++ submission.id) timeout.word), s)
    else
      let (outcome, s) := s.takeIn submission
      (SubmitOutcome.ofApply submission outcome, s)

/-- plans a task and submits the plan -/
def submitPlanned (s : Session) (plan : Except Misconfiguration Plan) : Except Error SubmitOutcome × Session :=
  match plan with
  | .error cause => (.error (.configuration cause), s)
  | .ok plan => s.submit plan

/-- the phase of a job -/
def poll (s : Session) (job : String) (policy : RunPolicy) : Except CountOverflow PhaseReport × Session :=
  let timeout := s.settings.status.requestTimeout
  let wait := s.timer.bounded s.statusDelay timeout
  let s := s.waitUntil (s.now + wait.duration)
  (if wait.cut then .ok (timeoutReport timeout.word) else pollReport job policy (s.cluster.status job), s)

/-- the status of a job, however long it takes to read -/
def status (s : Session) (job : String) : Except Error (Option Snapshot) × Session :=
  let s := s.waitUntil (s.now + s.timer.delay s.statusDelay)
  (s.cluster.status job, s)

/-- changes the cluster, unless that fails -/
def change (s : Session) (cluster : Except Error LocalCluster) : Except Error Unit × Session :=
  match cluster with
  | .error e => (.error e, s)
  | .ok cluster => (.ok (), { s with cluster })

def delete (s : Session) (job : String) : Except Error Unit × Session := s.change (s.cluster.delete job)

def setStatus (s : Session) (snapshot : Snapshot) : Except Error Unit × Session :=
  s.change (s.cluster.setStatus snapshot)

/-- the reader of a watch goes away; whether there was such a watch -/
def dropWatch (s : Session) (name : String) : Bool × Session :=
  match s.watches.find? name with
  | none => (false, s)
  | some w => (true, { s with watches := s.watches.erase name, dropped := w.abandon :: s.dropped })

/-- starts a watch, in place of one of that name -/
def watch (s : Session) (name job : String) (policy : RunPolicy) : Session :=
  let s := (s.dropWatch name).2
  let capacity := max 1 s.settings.status.channelCapacity.toNat
  { s with watches := s.watches.insert name { job, policy, capacity, signalled := s.closed } }

/-- what the reader of a watch finds without waiting -/
def takeReport (s : Session) (name : String) : Option (Delivery × Session) :=
  match s.watches.find? name with
  | none => some (.noWatch, s)
  | some w =>
    match w.take with
    | some (report, w) => some (.report report, { s with watches := s.watches.insert name w })
    | none => if w.isFinished then some (.ended, s) else none

/-- the next report of a watch, waiting for it no longer than the timeout -/
def next (s : Session) (name : String) (timeout : Nat) : Delivery × Session :=
  match s.takeReport name with
  | some found => found
  | none =>
    let limit := s.now + s.timer.span (.ofMilliseconds timeout)
    match (s.watches.find? name).bind fun w => w.answer? s.watchSetting s.now limit with
    | none => (.timedOut, s.waitUntil limit)
    | some time =>
      let s := { s.runWatches (time + 1) with now := time }
      (s.takeReport name).getD (.timedOut, s)

/-- some watch still listens for the signal to shut down -/
def hasListener (s : Session) : Bool := (s.watches.values ++ s.dropped).any fun w => !w.isFinished

/-- gives the signal to shut down; whether a watch listened, or nothing if the signal cannot be given any more -/
def shutdown (s : Session) : Option Bool × Session :=
  if s.closed then (none, s) else (some s.hasListener, s.mapWatches Watch.signal)

/-- gives up the signal, which every watch takes as given; whether it could still be given -/
def close (s : Session) : Bool × Session :=
  if s.closed then (false, s) else (true, { s.mapWatches Watch.signal with closed := true })

end Session

end TrainingJobs
