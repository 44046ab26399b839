/-
Phases: one word for the state of a job, from the first rule that applies. A failure beyond the retry budget is final; a
success is that of the master, of all roles, or of the job; then a role that runs; then a job that is known at all.
-/
import TrainingJobs.RunPolicy
import TrainingJobs.Status.Snapshot

namespace TrainingJobs

inductive Phase where
  | queued
  | running
  | succeeded
  | failed
  | unknown
deriving DecidableEq, Repr, Inhabited

namespace Phase

def text : Phase → String
  | queued => "Queued"
  | running => "Running"
  | succeeded => "Succeeded"
  | failed => "Failed"
  | unknown => "Unknown"

/-- nothing comes after it -/
def isTerminal : Phase → Bool
  | succeeded | failed => true
  | _ => false

end Phase

structure PhaseReport where
  phase : Phase
  message : Option String
deriving DecidableEq, Repr, Inhabited

/-- the words for a role that says nothing itself -/
def roleMessage (name state : String) : String := s!"role '{name}' {state}"

namespace Snapshot

/-- a failure of the job, or of a role when the retry budget is used up; a failure without counts uses one retry -/
def failure? (s : Snapshot) (policy : RunPolicy) : Except CountOverflow (Option PhaseReport) :=
  if s.conditions.failed then .ok (some ⟨.failed, some (s.message.getD "job reported failed")⟩)
  else match s.roles.entries.find? fun e => e.2.isFailed with
    | none => .ok none
    | some (name, role) => do
      let consumed ← s.failedReplicas
      if policy.budgetRemains (max consumed 1) then pure none
      else pure (some ⟨.failed, some (role.message.getD (roleMessage name "failed"))⟩)

/-- every reported role has succeeded, and there is one -/
def allSucceeded (s : Snapshot) : Bool := !s.roles.isEmpty && s.roles.values.all RoleStatus.hasSucceeded

/-- a success of the whole job -/
def jobSuccess? (s : Snapshot) : Option PhaseReport :=
  if s.conditions.succeeded then some ⟨.succeeded, s.message⟩ else none

def success? (s : Snapshot) : Option PhaseReport :=
  match s.master? with
  | some (name, master) =>
    if master.hasSucceeded then some ⟨.succeeded, some (master.message.getD (roleMessage name "succeeded"))⟩
    else s.jobSuccess?
  | none => if s.allSucceeded then some ⟨.succeeded, s.message⟩ else s.jobSuccess?

def running? (s : Snapshot) : Option PhaseReport :=
  match s.roles.entries.find? fun e => e.2.isRunning with
  | some (name, role) => some ⟨.running, some ((role.message.or s.message).getD (roleMessage name "running"))⟩
  | none => if s.conditions.running || s.conditions.restarting then some ⟨.running, s.message⟩ else none

/-- nothing at all is reported of the job; roles that say nothing do not count -/
def isSilent (s : Snapshot) : Bool := !s.accepted && s.conditions.isEmpty && s.roles.values.all RoleStatus.isSilent

/-- the phase of a job that has not started -/
def waiting (s : Snapshot) : PhaseReport :=
  if s.isSilent then ⟨.unknown, s.message⟩
  else ⟨.queued, s.message.or (some "job accepted, no role started")⟩

/-- the phase of a job under a run policy -/
def interpret (s : Snapshot) (policy : RunPolicy) : Except CountOverflow PhaseReport := do
  match ← s.failure? policy with
  | some report => pure report
  | none => pure ((s.success?.or s.running?).getD s.waiting)

end Snapshot

end TrainingJobs
