/-
Snapshots: what the cluster reports of a job at one moment, as conditions of the job and of its roles and as counts of
replicas. A set of conditions is written in the order in which the conditions are declared.
-/
import TrainingJobs.Role
import TrainingJobs.Text.Timestamp

namespace TrainingJobs

inductive RoleCondition where
  | pending
  | running
  | restarting
  | succeeded
  | failed
deriving DecidableEq, Repr, Inhabited

namespace RoleCondition

def all : List RoleCondition := [pending, running, restarting, succeeded, failed]

def text : RoleCondition → String
  | pending => "Pending"
  | running => "Running"
  | restarting => "Restarting"
  | succeeded => "Succeeded"
  | failed => "Failed"

def ofJson (v : Json) : Reading RoleCondition := v.asOneOf (all.map fun c => (c.text, c))

end RoleCondition

/-- a set of conditions of a role -/
structure RoleConditions where
  pending : Bool := false
  running : Bool := false
  restarting : Bool := false
  succeeded : Bool := false
  failed : Bool := false
deriving DecidableEq, Repr, Inhabited

namespace RoleConditions

def has (s : RoleConditions) : RoleCondition → Bool
  | .pending => s.pending
  | .running => s.running
  | .restarting => s.restarting
  | .succeeded => s.succeeded
  | .failed => s.failed

def insert (s : RoleConditions) : RoleCondition → RoleConditions
  | .pending => { s with pending := true }
  | .running => { s with running := true }
  | .restarting => { s with restarting := true }
  | .succeeded => { s with succeeded := true }
  | .failed => { s with failed := true }

def ofList (cs : List RoleCondition) : RoleConditions := cs.foldl insert {}

def toList (s : RoleConditions) : List RoleCondition := RoleCondition.all.filter s.has

def isEmpty (s : RoleConditions) : Bool := s.toList.isEmpty

theorem has_insert (s : RoleConditions) (c d : RoleCondition) : (s.insert c).has d = (d == c || s.has d) := by
  cases c <;> cases d <;> simp [insert, has]

def ofJson (v : Json) : Reading RoleConditions := (v.asList RoleCondition.ofJson).map ofList

def toJson (s : RoleConditions) : Json := .ofTexts (s.toList.map RoleCondition.text)

end RoleConditions

inductive JobCondition where
  | created
  | running
  | restarting
  | succeeded
  | failed
  | suspended
deriving DecidableEq, Repr, Inhabited

namespace JobCondition

def all : List JobCondition := [created, running, restarting, succeeded, failed, suspended]

def text : JobCondition → String
  | created => "Created"
  | running => "Running"
  | restarting => "Restarting"
  | succeeded => "Succeeded"
  | failed => "Failed"
  | suspended => "Suspended"

/-- the condition that the operator calls so -/
def parse? (s : String) : Option JobCondition := all.find? fun c => c.text == s

def ofJson (v : Json) : Reading JobCondition := v.asOneOf (all.map fun c => (c.text, c))

end JobCondition

/-- a set of conditions of a job -/
structure JobConditions where
  created : Bool := false
  running : Bool := false
  restarting : Bool := false
  succeeded : Bool := false
  failed : Bool := false
  suspended : Bool := false
deriving DecidableEq, Repr, Inhabited

namespace JobConditions

def has (s : JobConditions) : JobCondition → Bool
  | .created => s.created
  | .running => s.running
  | .restarting => s.restarting
  | .succeeded => s.succeeded
  | .failed => s.failed
  | .suspended => s.suspended

def insert (s : JobConditions) : JobCondition → JobConditions
  | .created => { s with created := true }
  | .running => { s with running := true }
  | .restarting => { s with restarting := true }
  | .succeeded => { s with succeeded := true }
  | .failed => { s with failed := true }
  | .suspended => { s with suspended := true }

def ofList (cs : List JobCondition) : JobConditions := cs.foldl insert {}

def toList (s : JobConditions) : List JobCondition := JobCondition.all.filter s.has

def isEmpty (s : JobConditions) : Bool := s.toList.isEmpty

theorem has_insert (s : JobConditions) (c d : JobCondition) : (s.insert c).has d = (d == c || s.has d) := by
  cases c <;> cases d <;> simp [insert, has]

def ofJson (v : Json) : Reading JobConditions := (v.asList JobCondition.ofJson).map ofList

def toJson (s : JobConditions) : Json := .ofTexts (s.toList.map JobCondition.text)

end JobConditions

/-- how many replicas of a role are in which state -/
structure ReplicaCounts where
  active : UInt32 := 0
  succeeded : UInt32 := 0
  failed : UInt32 := 0
deriving DecidableEq, Repr, Inhabited

namespace ReplicaCounts

def slots : List (Json.Slot ReplicaCounts) :=
  [Json.slot "active" .defaulted Json.asCount fun c v => { c with active := v },
   Json.slot "succeeded" .defaulted Json.asCount fun c v => { c with succeeded := v },
   Json.slot "failed" .defaulted Json.asCount fun c v => { c with failed := v }]

def ofJson : Json → Reading ReplicaCounts := Json.readRecord slots {}

def toJson (c : ReplicaCounts) : Json :=
  .record [("active", .ofCount c.active), ("succeeded", .ofCount c.succeeded), ("failed", .ofCount c.failed)]

end ReplicaCounts

structure RoleStatus where
  conditions : RoleConditions := {}
  replicas : ReplicaCounts := {}
  message : Option String := none
deriving DecidableEq, Repr, Inhabited

namespace RoleStatus

def isFailed (s : RoleStatus) : Bool := s.conditions.failed || s.replicas.failed > 0

def isRunning (s : RoleStatus) : Bool := s.conditions.running || s.conditions.restarting || s.replicas.active > 0

def hasSucceeded (s : RoleStatus) : Bool := s.conditions.succeeded

/-- neither a condition nor a replica is reported -/
def isSilent (s : RoleStatus) : Bool := s.conditions.isEmpty && s.replicas == {}

def slots : List (Json.Slot RoleStatus) :=
  [Json.slot "conditions" .defaulted RoleConditions.ofJson fun s v => { s with conditions := v },
   Json.slot "replicas" .defaulted ReplicaCounts.ofJson fun s v => { s with replicas := v },
   Json.slot "message" .defaulted (Json.optional Json.asText) fun s v => { s with message := v }]

def ofJson : Json → Reading RoleStatus := Json.readRecord slots {}

def toJson (s : RoleStatus) : Json :=
  .record [("conditions", s.conditions.toJson), ("replicas", s.replicas.toJson),
    ("message", .ofOption .text s.message)]

end RoleStatus

structure Snapshot where
  job : String
  /-- the cluster has taken the job on -/
  accepted : Bool := false
  conditions : JobConditions := {}
  roles : Dict RoleStatus := ∅
  message : Option String := none
deriving DecidableEq, Repr, Inhabited

namespace Snapshot

/-- a job taken on of which nothing more is known -/
def ofAccepted (job : String) : Snapshot := { job, accepted := true, conditions := { created := true } }

def isEmpty (s : Snapshot) : Bool := !s.accepted && s.conditions.isEmpty && s.roles.isEmpty

/-- the coordinating role, the first by name if there are several -/
def master? (s : Snapshot) : Option (String × RoleStatus) := s.roles.entries.find? fun e => isMasterRole e.1

/-- failed replicas of all roles together -/
def failedReplicas (s : Snapshot) : Except CountOverflow UInt32 := total (s.roles.values.map (·.replicas.failed))

/-- a moment in time; only its form matters -/
def checkTime (v : Json) : Reading Unit := do
  if Text.isTimestamp (← v.asText) then pure () else throw .malformed

def slots : List (Json.Slot Snapshot) :=
  [Json.slot "job_id" .required Json.asText fun s v => { s with job := v },
   Json.slot "accepted" .defaulted Json.asBool fun s v => { s with accepted := v },
   Json.slot "job_conditions" .defaulted JobConditions.ofJson fun s v => { s with conditions := v },
   Json.slot "roles" .defaulted (Json.asDict RoleStatus.ofJson) fun s v => { s with roles := v },
   Json.slot "message" .defaulted (Json.optional Json.asText) fun s v => { s with message := v },
   Json.slot "observed_at" .defaulted checkTime fun s _ => s]

def ofJson : Json → Reading Snapshot := Json.readRecord slots { job := "" }

def toJson (s : Snapshot) : Json :=
  .record [("job_id", .text s.job), ("accepted", .bool s.accepted), ("job_conditions", s.conditions.toJson),
    ("roles", .ofDict RoleStatus.toJson s.roles), ("message", .ofOption .text s.message)]

end Snapshot

end TrainingJobs
