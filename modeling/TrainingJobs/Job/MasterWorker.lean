/-
Jobs of one master and a number of workers. Both roles start from one template; what a role sets for itself stands over
it, requests and limits each on their own. The number of workers is given exactly once, of two places for it.
-/
import TrainingJobs.Job.Draft

namespace TrainingJobs

structure MasterConfig where
  image : Option String := none
  requests : Option Resources := none
  limits : Option Resources := none
  restartPolicy : Option RestartPolicy := none
deriving DecidableEq, Repr, Inhabited

namespace MasterConfig

def slots : List (Json.Slot MasterConfig) :=
  [Json.slot "image" .defaulted (Json.optional Json.asText) fun c v => { c with image := v },
   Json.slot "requests" .defaulted (Json.optional Resources.ofJson) fun c v => { c with requests := v },
   Json.slot "limits" .defaulted (Json.optional Resources.ofJson) fun c v => { c with limits := v },
   Json.slot "restart_policy" .defaulted (Json.optional RestartPolicy.ofJson) fun c v => { c with restartPolicy := v }]

def ofJson : Json → Reading MasterConfig := Json.readRecord slots {}

def toJson (c : MasterConfig) : Json :=
  .record [("image", .ofOption .text c.image), ("requests", .ofOption Resources.toJson c.requests),
    ("limits", .ofOption Resources.toJson c.limits), ("restart_policy", .ofOption RestartPolicy.toJson c.restartPolicy)]

end MasterConfig

structure WorkerConfig where
  image : Option String := none
  requests : Option Resources := none
  limits : Option Resources := none
  replicas : Option UInt32 := none
  restartPolicy : Option RestartPolicy := none
deriving DecidableEq, Repr, Inhabited

namespace WorkerConfig

def slots : List (Json.Slot WorkerConfig) :=
  [Json.slot "image" .defaulted (Json.optional Json.asText) fun c v => { c with image := v },
   Json.slot "requests" .defaulted (Json.optional Resources.ofJson) fun c v => { c with requests := v },
   Json.slot "limits" .defaulted (Json.optional Resources.ofJson) fun c v => { c with limits := v },
   Json.slot "replicas" .defaulted (Json.optional Json.asCount) fun c v => { c with replicas := v },
   Json.slot "restart_policy" .defaulted (Json.optional RestartPolicy.ofJson) fun c v => { c with restartPolicy := v }]

def ofJson : Json → Reading WorkerConfig := Json.readRecord slots {}

def toJson (c : WorkerConfig) : Json :=
  .record [("image", .ofOption .text c.image), ("requests", .ofOption Resources.toJson c.requests),
    ("limits", .ofOption Resources.toJson c.limits), ("replicas", .ofOption .ofCount c.replicas),
    ("restart_policy", .ofOption RestartPolicy.toJson c.restartPolicy)]

end WorkerConfig

structure MasterWorkerConfig where
  master : MasterConfig := {}
  worker : WorkerConfig := {}
  runPolicy : Option RunPolicy := none
  /-- the older place for the number of workers -/
  numWorkers : Option UInt32 := none
  sharedMemory : Bool := true
deriving DecidableEq, Repr, Inhabited

namespace MasterWorkerConfig

/-- the number of workers, if it is given once -/
def workerReplicas (c : MasterWorkerConfig) : Except Misconfiguration UInt32 :=
  match c.numWorkers, c.worker.replicas with
  | some _, some _ => .error .workersTwice
  | none, none => .error .noWorkers
  | some n, none => .ok n
  | none, some n => .ok n

/-- the template with what the role sets for itself -/
def specialize (template : RoleSpec) (replicas : UInt32) (image : Option String) (requests limits : Option Resources)
    (restartPolicy : Option RestartPolicy) : RoleSpec :=
  { template with
    replicas
    image := image.or template.image
    resources := {
      requests := requests.getD template.resources.requests
      limits := limits.getD template.resources.limits }
    restartPolicy := restartPolicy.or template.restartPolicy }

/-- the draft of the job; `image` is for roles that end up without one -/
def draft (c : MasterWorkerConfig) (execution : Execution) (template : RoleSpec) (image : String) :
    Except Misconfiguration JobDraft := do
  let workers ← c.workerReplicas
  let master := specialize template 1 c.master.image c.master.requests c.master.limits c.master.restartPolicy
  let worker := specialize template workers c.worker.image c.worker.requests c.worker.limits c.worker.restartPolicy
  pure (.run execution [.defaultImage image, .role masterRole master, .role workerRole worker,
    .requireRole masterRole, .requireRole workerRole, .runPolicy (c.runPolicy.getD {}), .sharedMemory c.sharedMemory])

def slots : List (Json.Slot MasterWorkerConfig) :=
  [Json.slot "master" .defaulted MasterConfig.ofJson fun c v => { c with master := v },
   Json.slot "worker" .defaulted WorkerConfig.ofJson fun c v => { c with worker := v },
   Json.slot "run_policy" .defaulted (Json.optional RunPolicy.ofJson) fun c v => { c with runPolicy := v },
   Json.slot "num_workers" .defaulted (Json.optional Json.asCount) fun c v => { c with numWorkers := v },
   Json.slot "increase_shared_mem" .defaulted Json.asBool fun c v => { c with sharedMemory := v }]

def ofJson : Json → Reading MasterWorkerConfig := Json.readRecord slots {}

def toJson (c : MasterWorkerConfig) : Json :=
  .record [("master", c.master.toJson), ("worker", c.worker.toJson),
    ("run_policy", .ofOption RunPolicy.toJson c.runPolicy), ("num_workers", .ofOption .ofCount c.numWorkers),
    ("increase_shared_mem", .bool c.sharedMemory)]

end MasterWorkerConfig

end TrainingJobs
