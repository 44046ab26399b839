/-
The status that the operator writes on a job, and the snapshot it amounts to: conditions that are true and known count,
the last true condition with a message gives the message, and replica types are roles in lower case.
-/
import TrainingJobs.Status.Snapshot

namespace TrainingJobs

/-- one condition as the operator words it -/
structure OperatorCondition where
  kind : String := ""
  /-- one of `True`, `False` and `Unknown` -/
  status : String := ""
  reason : Option String := none
  message : Option String := none
deriving DecidableEq, Repr, Inhabited

namespace OperatorCondition

def isTrue (c : OperatorCondition) : Bool := c.status == "True"

def slots : List (Json.Slot OperatorCondition) :=
  [Json.slot "type" .required Json.asText fun c v => { c with kind := v },
   Json.slot "status" .required Json.asText fun c v => { c with status := v },
   Json.slot "reason" .defaulted (Json.optional Json.asText) fun c v => { c with reason := v },
   Json.slot "message" .defaulted (Json.optional Json.asText) fun c v => { c with message := v },
   Json.slot "lastUpdateTime" .defaulted (Json.optional Snapshot.checkTime) fun c _ => c,
   Json.slot "lastTransitionTime" .defaulted (Json.optional Snapshot.checkTime) fun c _ => c]

def ofJson : Json → Reading OperatorCondition := Json.readRecord slots {}

end OperatorCondition

/-- replica counts as the operator writes them -/
structure OperatorReplicas where
  active : Option Int32 := none
  succeeded : Option Int32 := none
  failed : Option Int32 := none
deriving DecidableEq, Repr, Inhabited

namespace OperatorReplicas

/-- an absent or negative count is zero -/
def count (n : Option Int32) : UInt32 :=
  match n with
  | none => 0
  | some n => if n < 0 then 0 else n.toUInt32

def counts (r : OperatorReplicas) : ReplicaCounts := ⟨count r.active, count r.succeeded, count r.failed⟩

def slots : List (Json.Slot OperatorReplicas) :=
  [Json.slot "active" .defaulted (Json.optional Json.asInt32) fun r v => { r with active := v },
   Json.slot "succeeded" .defaulted (Json.optional Json.asInt32) fun r v => { r with succeeded := v },
   Json.slot "failed" .defaulted (Json.optional Json.asInt32) fun r v => { r with failed := v }]

def ofJson : Json → Reading OperatorReplicas := Json.readRecord slots {}

end OperatorReplicas

structure OperatorStatus where
  conditions : List OperatorCondition := []
  /-- by replica type -/
  replicas : Dict OperatorReplicas := ∅
deriving DecidableEq, Repr, Inhabited

namespace OperatorStatus

def slots : List (Json.Slot OperatorStatus) :=
  [Json.slot "conditions" .defaulted (Json.asList OperatorCondition.ofJson) fun s v => { s with conditions := v },
   Json.slot "replicaStatuses" .defaulted (Json.asDict OperatorReplicas.ofJson) fun s v => { s with replicas := v },
   Json.slot "startTime" .defaulted (Json.optional Snapshot.checkTime) fun s _ => s,
   Json.slot "completionTime" .defaulted (Json.optional Snapshot.checkTime) fun s _ => s]

def ofJson : Json → Reading OperatorStatus := Json.readRecord slots {}

end OperatorStatus

namespace RoleStatus

/-- what counts say of a role: a failure comes first, a running replica beside it is kept -/
def ofCounts (c : ReplicaCounts) : RoleStatus where
  replicas := c
  conditions :=
    if c.failed > 0 then { failed := true, running := c.active > 0 }
    else if c.active > 0 then { running := true }
    else if c.succeeded > 0 then { succeeded := true }
    else { pending := true }

end RoleStatus

namespace Snapshot

/-- one more condition of the operator -/
def observe (s : Snapshot) (c : OperatorCondition) : Snapshot :=
  if !c.isTrue then s
  else { s with
    conditions := match JobCondition.parse? c.kind with
      | none => s.conditions
      | some kind => s.conditions.insert kind
    message := c.message.or s.message }

def operatorRoles (status : OperatorStatus) : Dict RoleStatus :=
  .ofList (status.replicas.entries.map fun e => (lowerCase e.1, .ofCounts e.2.counts))

/-- what the operator's status says of a job; a job without a status is taken on and has not started -/
def ofOperator (job : String) : Option OperatorStatus → Snapshot
  | none => ofAccepted job
  | some status => { status.conditions.foldl observe (ofAccepted job) with roles := operatorRoles status }

end Snapshot

end TrainingJobs
