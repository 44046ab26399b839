/-
Launch parameters of a multi-node run: the environment variables that carry them to a replica, what a replica takes
back from its environment, and the arguments of `torchrun`. A malformed variable is an error; none is passed over.
-/
import TrainingJobs.Elastic.Config
import TrainingJobs.Json.Writer

namespace TrainingJobs

/-- looks up an environment variable -/
abbrev Environment := String → Option String

/-- where nodes meet when nothing else is said -/
def defaultEndpoint : String := "localhost:0"

structure ElasticLaunch where
  minNodes : UInt32
  maxNodes : UInt32
  processesPerNode : UInt32
  maxRestarts : UInt32
  monitorInterval : UInt32
  startMethod : StartMethod
  backend : String
  endpoint : String
  rendezvous : Dict Json.Plain
deriving DecidableEq, Repr, Inhabited

namespace ElasticLaunch

def ofConfig (config : ElasticConfig) (backend : String) : ElasticLaunch where
  minNodes := config.nodes.min
  maxNodes := config.nodes.max
  processesPerNode := config.processesPerNode
  maxRestarts := config.maxRestarts
  monitorInterval := config.monitorInterval
  startMethod := config.startMethod
  backend := backend
  endpoint := defaultEndpoint
  rendezvous := config.rendezvous

/-- both bounds of the node count -/
def nodesText (l : ElasticLaunch) : String := (NodeCount.range l.minNodes l.maxNodes).text

def nodesVariable : String := "PET_NNODES"
def processesVariable : String := "PET_NPROC_PER_NODE"
def restartsVariable : String := "PET_MAX_RESTARTS"
def monitorVariable : String := "PET_MONITOR_INTERVAL"
def endpointVariable : String := "PET_RDZV_ENDPOINT"
def threadsVariable : String := "OMP_NUM_THREADS"

/-- the count that a variable holds -/
def readVariable (name value : String) : Except Misconfiguration UInt32 :=
  match Text.count? (Text.trim value.toList) with
  | some n => .ok n
  | none => .error (.malformedVariable name value)

/-- the launch with the nodes that the variable sets -/
def withNodes (l : ElasticLaunch) : Option String → Except Misconfiguration ElasticLaunch
  | none => .ok l
  | some value => (NodeCount.parse value).map fun c => { l with minNodes := c.min, maxNodes := c.max }

def withProcesses (l : ElasticLaunch) : Option String → Except Misconfiguration ElasticLaunch
  | none => .ok l
  | some value => do
    let n ← readVariable processesVariable value
    if n = 0 then throw (.zeroVariable processesVariable) else pure { l with processesPerNode := n }

def withRestarts (l : ElasticLaunch) : Option String → Except Misconfiguration ElasticLaunch
  | none => .ok l
  | some value => (readVariable restartsVariable value).map fun n => { l with maxRestarts := n }

def withMonitor (l : ElasticLaunch) : Option String → Except Misconfiguration ElasticLaunch
  | none => .ok l
  | some value => (readVariable monitorVariable value).map fun n => { l with monitorInterval := n }

/-- what the environment sets takes the place of the launch's own values; the endpoint is taken as it is -/
def withEnvironment (l : ElasticLaunch) (env : Environment) : Except Misconfiguration ElasticLaunch := do
  let l ← l.withNodes (env nodesVariable)
  let l ← l.withProcesses (env processesVariable)
  let l ← l.withRestarts (env restartsVariable)
  let l ← l.withMonitor (env monitorVariable)
  pure { l with endpoint := (env endpointVariable).getD l.endpoint }

/-- the variables that describe the launch to a replica -/
def launchVariables (l : ElasticLaunch) : Dict String :=
  .ofList [(nodesVariable, l.nodesText), (processesVariable, Text.decimal l.processesPerNode.toNat),
    (restartsVariable, Text.decimal l.maxRestarts.toNat), (monitorVariable, Text.decimal l.monitorInterval.toNat)]

/-- one thread a process, where several processes share a node and nothing else is set -/
def threadVariables (l : ElasticLaunch) (env : Environment) : Dict String :=
  if l.processesPerNode > 1 && (env threadsVariable).isNone then .ofList [(threadsVariable, "1")] else ∅

/-- a rendezvous setting as it stands in the arguments: a text bare, any other value as compact JSON -/
def settingText : Json → String
  | .text s => s
  | v => v.compact

def rendezvousText (l : ElasticLaunch) : String :=
  ",".intercalate (l.rendezvous.entries.map fun e => e.1 ++ "=" ++ settingText e.2.json)

def torchrunArguments (l : ElasticLaunch) : List String :=
  ["--nnodes=" ++ l.nodesText,
   "--nproc-per-node=" ++ Text.decimal l.processesPerNode.toNat,
   "--max-restarts=" ++ Text.decimal l.maxRestarts.toNat,
   "--monitor-interval=" ++ Text.decimal l.monitorInterval.toNat,
   "--start-method=" ++ l.startMethod.text,
   "--rdzv-backend=" ++ l.backend,
   "--rdzv-endpoint=" ++ l.endpoint] ++
  if l.rendezvous.isEmpty then [] else ["--rdzv-conf=" ++ l.rendezvousText]

def slots : List (Json.Slot ElasticLaunch) :=
  [Json.slot "min_nodes" .required Json.asCount fun l v => { l with minNodes := v },
   Json.slot "max_nodes" .required Json.asCount fun l v => { l with maxNodes := v },
   Json.slot "nproc_per_node" .required Json.asCount fun l v => { l with processesPerNode := v },
   Json.slot "max_restarts" .required Json.asCount fun l v => { l with maxRestarts := v },
   Json.slot "monitor_interval" .required Json.asCount fun l v => { l with monitorInterval := v },
   Json.slot "start_method" .required StartMethod.ofJson fun l v => { l with startMethod := v },
   Json.slot "rdzv_backend" .required Json.asText fun l v => { l with backend := v },
   Json.slot "rdzv_endpoint" .required Json.asText fun l v => { l with endpoint := v },
   Json.slot "rdzv_configs" .required (Json.asDict Json.asPlain) fun l v => { l with rendezvous := v }]

def ofJson : Json → Reading ElasticLaunch := Json.readRecord slots default

def toJson (l : ElasticLaunch) : Json :=
  .record [("min_nodes", .ofCount l.minNodes), ("max_nodes", .ofCount l.maxNodes),
    ("nproc_per_node", .ofCount l.processesPerNode), ("max_restarts", .ofCount l.maxRestarts),
    ("monitor_interval", .ofCount l.monitorInterval), ("start_method", l.startMethod.toJson),
    ("rdzv_backend", .text l.backend), ("rdzv_endpoint", .text l.endpoint),
    ("rdzv_configs", .ofDict Json.Plain.json l.rendezvous)]

end ElasticLaunch

end TrainingJobs
