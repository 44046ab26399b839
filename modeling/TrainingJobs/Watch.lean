/-
Watches: rounds of polling a job, sending the report if its phase is not the last one sent, and resting. A watch ends
after a terminal phase, on a signal, or when nobody reads its reports any more; while it polls or waits for room it
takes no notice of a signal. Reports wait for the reader in a buffer of limited capacity.

Time is a number of milliseconds, and the timer says how many of them a wait takes. Every stage says when the watch acts
next, and a run acts as often as there is something to do before a given time.
-/
import TrainingJobs.Status.Poll
import TrainingJobs.Time

namespace TrainingJobs

/-- where a watch is in its round -/
inductive WatchStage where
  | starting
  /-- a status read ends then; it may end by its timeout -/
  | reading (due : Nat) (cut : Bool)
  /-- waits for room in the buffer -/
  | sending (report : PhaseReport)
  /-- the next round begins then -/
  | resting (due : Nat)
  | finished
deriving DecidableEq, Repr

structure Watch where
  job : String
  policy : RunPolicy
  capacity : Nat
  stage : WatchStage := .starting
  /-- phase of the last report sent -/
  last : Option Phase := none
  /-- reports sent and not read yet -/
  buffer : List PhaseReport := []
  /-- told to shut down -/
  signalled : Bool := false
  /-- nobody reads the reports any more -/
  abandoned : Bool := false
deriving DecidableEq, Repr

/-- what a watch depends on: reads of the status, how long they take and may take, how long it rests, and the timer -/
structure WatchSetting where
  read : String → Except Error (Option Snapshot)
  delay : Option Duration
  timeout : Duration
  interval : Duration
  timer : Timer

namespace Watch

def isFinished (w : Watch) : Bool := w.stage == .finished

def hasRoom (w : Watch) : Bool := w.buffer.length < w.capacity

/-- the watch has been told to end its rounds -/
def isStopped (w : Watch) : Bool := w.signalled || w.abandoned

/-- a report of that phase is sent or need not be sent -/
def settle (w : Watch) (phase : Phase) (rest : Nat) : Watch :=
  { w with stage := if phase.isTerminal then .finished else .resting rest }

/-- sends a report; `rest` is when the next round would begin -/
def send (w : Watch) (report : PhaseReport) (rest : Nat) : Watch :=
  if w.abandoned then { w with stage := .finished }
  else if w.hasRoom then
    { w with last := some report.phase, buffer := w.buffer ++ [report] }.settle report.phase rest
  else { w with stage := .sending report }

/-- a poll has ended with that report -/
def observe (w : Watch) (report : PhaseReport) (rest : Nat) : Watch :=
  if w.last = some report.phase then w.settle report.phase rest else w.send report rest

/-- the reader takes the first report -/
def take (w : Watch) : Option (PhaseReport × Watch) :=
  match w.buffer with
  | [] => none
  | report :: rest => some (report, { w with buffer := rest })

/-- a signal to shut down -/
def signal (w : Watch) : Watch := { w with signalled := true }

/-- the reader goes away -/
def abandon (w : Watch) : Watch := { w with abandoned := true, buffer := [] }

/-- when the watch acts next, from `now` on -/
def due? (w : Watch) (now : Nat) : Option Nat :=
  match w.stage with
  | .starting => some now
  | .reading due _ => some (max now due)
  | .sending _ => if w.abandoned || w.hasRoom then some now else none
  | .resting due => some (if w.isStopped then now else max now due)
  | .finished => none

/-- the report at the end of a read; a watch whose poll has no report ends -/
def finishRead (w : Watch) (setting : WatchSetting) (cut : Bool) (rest : Nat) : Watch :=
  if cut then w.observe (timeoutReport setting.timeout.word) rest
  else match pollReport w.job w.policy (setting.read w.job) with
    | .ok report => w.observe report rest
    | .error _ => { w with stage := .finished }

/-- a read begins -/
def beginRead (w : Watch) (setting : WatchSetting) (now : Nat) : Watch :=
  let wait := setting.timer.bounded setting.delay setting.timeout
  { w with stage := .reading (now + wait.duration) wait.cut }

/-- what the watch does when it acts -/
def act (w : Watch) (setting : WatchSetting) (now : Nat) : Watch :=
  let rest := now + setting.timer.span setting.interval
  match w.stage with
  | .starting => w.beginRead setting now
  | .reading _ cut => w.finishRead setting cut rest
  | .sending report => w.send report rest
  | .resting _ => if w.isStopped then { w with stage := .finished } else w.beginRead setting now
  | .finished => w

/-- acts from `now` on as long as it acts before `limit` -/
def runFor : Nat → WatchSetting → Nat → Nat → Watch → Watch
  | 0, _, _, _, w => w
  | fuel + 1, setting, limit, now, w =>
    match w.due? now with
    | none => w
    | some t => if t < limit then runFor fuel setting limit t (w.act setting t) else w

/-- enough actions for the time between; a round takes three and rests a millisecond at least -/
def actions (now limit : Nat) : Nat := 4 * (limit - now + 1)

/-- the watch after everything it does from `now` on and before `limit` -/
def runBefore (w : Watch) (setting : WatchSetting) (now limit : Nat) : Watch :=
  runFor (actions now limit) setting limit now w

/-- the first time before `limit` at which the reader has something to take or the watch has ended -/
def answersAt : Nat → WatchSetting → Nat → Nat → Watch → Option Nat
  | 0, _, _, _, _ => none
  | fuel + 1, setting, limit, now, w =>
    if !w.buffer.isEmpty || w.isFinished then some now
    else match w.due? now with
      | none => none
      | some t => if t < limit then answersAt fuel setting limit t (w.act setting t) else none

/-- when a reader that waits from `now` on and not up to `limit` gets its answer -/
def answer? (w : Watch) (setting : WatchSetting) (now limit : Nat) : Option Nat :=
  answersAt (actions now limit) setting limit now w

end Watch

end TrainingJobs
