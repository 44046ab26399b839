/-
The elastic configuration of a task: how many nodes and processes, how they start, and how they meet.
-/
import TrainingJobs.NodeCount
import TrainingJobs.RunPolicy

namespace TrainingJobs

/-- how the worker processes of a node are started -/
inductive StartMethod where
  | spawn
  | fork
deriving DecidableEq, Repr, Inhabited

namespace StartMethod

def text : StartMethod → String
  | spawn => "spawn"
  | fork => "fork"

def ofJson (v : Json) : Reading StartMethod := v.asOneOf [("spawn", spawn), ("fork", fork)]

def toJson (m : StartMethod) : Json := .text m.text

end StartMethod

/-- seconds that nodes wait for each other; image pulls on fresh nodes need them -/
def defaultRendezvousTimeout : Nat := 900

/-- settings of the rendezvous where a configuration says nothing of them -/
def defaultRendezvous : Dict Json.Plain :=
  let timeout : Json.Plain := ⟨.ofNat defaultRendezvousTimeout, rfl, rfl⟩
  .ofList [("timeout", timeout), ("join_timeout", timeout)]

structure ElasticConfig where
  nodes : NodeCount := .fixed 1
  processesPerNode : UInt32 := 1
  startMethod : StartMethod := .spawn
  /-- seconds between health checks of the workers -/
  monitorInterval : UInt32 := 5
  maxRestarts : UInt32 := 0
  /-- further settings of the rendezvous -/
  rendezvous : Dict Json.Plain := defaultRendezvous
  sharedMemory : Bool := true
  runPolicy : Option RunPolicy := none
deriving DecidableEq, Repr, Inhabited

namespace ElasticConfig

def slots : List (Json.Slot ElasticConfig) :=
  [Json.slot "nnodes" .defaulted NodeCount.ofJson fun c v => { c with nodes := v },
   Json.slot "nproc_per_node" .defaulted Json.asCount fun c v => { c with processesPerNode := v },
   Json.slot "start_method" .defaulted StartMethod.ofJson fun c v => { c with startMethod := v },
   Json.slot "monitor_interval" .defaulted Json.asCount fun c v => { c with monitorInterval := v },
   Json.slot "max_restarts" .defaulted Json.asCount fun c v => { c with maxRestarts := v },
   Json.slot "rdzv_configs" .defaulted (Json.asDict Json.asPlain) fun c v => { c with rendezvous := v },
   Json.slot "increase_shared_mem" .defaulted Json.asBool fun c v => { c with sharedMemory := v },
   Json.slot "run_policy" .defaulted (Json.optional RunPolicy.ofJson) fun c v => { c with runPolicy := v }]

def ofJson : Json → Reading ElasticConfig := Json.readRecord slots {}

def toJson (c : ElasticConfig) : Json :=
  .record [("nnodes", c.nodes.toJson), ("nproc_per_node", .ofCount c.processesPerNode),
    ("start_method", c.startMethod.toJson), ("monitor_interval", .ofCount c.monitorInterval),
    ("max_restarts", .ofCount c.maxRestarts), ("rdzv_configs", .ofDict Json.Plain.json c.rendezvous),
    ("increase_shared_mem", .bool c.sharedMemory), ("run_policy", .ofOption RunPolicy.toJson c.runPolicy)]

end ElasticConfig

end TrainingJobs
