/-
Calls from a host with dynamic values: one value that is passed by position, the others by name. The named ones are
checked in the order of the signature before anything is computed. A truth value counts as the integer 1 or 0.

- `asCount_ofCount`: a count that is passed arrives.
-/
import TrainingJobs.Job.Manifest
import TrainingJobs.Plan
import TrainingJobs.Status.Operator
import TrainingJobs.Status.Phase

namespace TrainingJobs

/-- why a call has no result -/
inductive HostFault where
  /-- a value of the wrong kind; some such faults are worded -/
  | wrongKind (message : Option String)
  /-- an integer that does not fit -/
  | outOfRange
  | invalid (message : String)
  | overflow
deriving DecidableEq, Repr

/-- values that are passed by name -/
abbrev NamedValues := List (String × Json)

namespace HostCall

def misconfigured {α : Type} : Except Misconfiguration α → Except HostFault α :=
  Except.mapError fun cause => .invalid (Error.headed cause)

/-- the integer that a value counts as -/
def integer? : Json → Option Int
  | .bool b => some (if b then 1 else 0)
  | .number (.int n) => some n
  | _ => none

/-- no value is passed under a name that the call does not know -/
def checkNames (known : List String) (values : NamedValues) : Except HostFault Unit :=
  if values.all fun v => known.contains v.1 then .ok () else .error (.wrongKind none)

def valueOf (values : NamedValues) (name : String) : Option Json := (Json.record values).field? name

def asCount (v : Json) : Except HostFault UInt32 :=
  match integer? v with
  | none => .error (.wrongKind none)
  | some n =>
    match countOf? n with
    | none => .error .outOfRange
    | some c => .ok c

theorem asCount_ofCount (n : UInt32) : asCount (.ofCount n) = .ok n := by
  simp [asCount, integer?, Json.ofCount, Json.ofNat, (countOf?_eq_some_iff n.toNat n).2 rfl]

def count (values : NamedValues) (name : String) (default : UInt32) : Except HostFault UInt32 :=
  match valueOf values name with
  | none => .ok default
  | some v => asCount v

def optionalCount (values : NamedValues) (name : String) : Except HostFault (Option UInt32) :=
  match valueOf values name with
  | none | some .null => .ok none
  | some v => (asCount v).map some

def flag (values : NamedValues) (name : String) (default : Bool) : Except HostFault Bool :=
  match valueOf values name with
  | none => .ok default
  | some (.bool b) => .ok b
  | some _ => .error (.wrongKind none)

def text : Json → Except HostFault String
  | .text s => .ok s
  | _ => .error (.wrongKind none)

def optionalText (values : NamedValues) (name : String) : Except HostFault (Option String) :=
  match valueOf values name with
  | none | some .null => .ok none
  | some v => (text v).map some

/-- a value read from its text; what cannot be read is invalid under the name of what it should be -/
def parsed {α : Type} (read : Json → Reading α) (what : String) (s : String) : Except HostFault α :=
  (Json.parsed read s).mapError fun _ => .invalid ("Invalid " ++ what)

def nodeCount (v : Json) : Except HostFault NodeCount :=
  let unusable := HostFault.wrongKind (some "nnodes must be an int or a string")
  match v, integer? v with
  | _, some n => if Json.isSigned64 n then misconfigured (NodeCount.ofInt n) else .error unusable
  | .text s, none => misconfigured (NodeCount.parse s)
  | _, none => .error unusable

/-- the tag of the type of a task with so many nodes -/
def selectTaskType (nodes : Json) (values : NamedValues) : Except HostFault String := do
  checkNames ["nproc_per_node"] values
  let processesPerNode ← count values "nproc_per_node" 1
  let nodes ← nodeCount nodes
  let mode ← misconfigured (({ nodes, processesPerNode } : ElasticConfig).mode defaultBackend)
  pure mode.taskType.tag

/-- a launch as a replica uses it -/
structure ResolvedLaunch where
  launch : ElasticLaunch
  arguments : List String
  /-- variables to be added for the processes of the replica -/
  env : Dict String
deriving DecidableEq, Repr

def ResolvedLaunch.text (r : ResolvedLaunch) : String :=
  "LaunchPlan(nnodes='" ++ r.launch.nodesText ++ "', nproc_per_node=" ++
    Text.decimal r.launch.processesPerNode.toNat ++ ", rdzv_endpoint='" ++ r.launch.endpoint ++ "')"

/-- the launch of a multi-node task in the environment of a replica; none for a single node -/
def resolveLaunch (nodes : Json) (values : NamedValues) (environment : Environment) :
    Except HostFault (Option ResolvedLaunch) := do
  checkNames ["nproc_per_node", "max_restarts", "from_env"] values
  let processesPerNode ← count values "nproc_per_node" 1
  let maxRestarts ← count values "max_restarts" 0
  let fromEnvironment ← flag values "from_env" true
  let nodes ← nodeCount nodes
  let config : ElasticConfig := { nodes, processesPerNode, maxRestarts }
  match ← misconfigured (config.mode defaultBackend) with
  | .singleNode => pure none
  | .multiNode launch =>
    let environment : Environment := if fromEnvironment then environment else fun _ => none
    let launch ← misconfigured (launch.withEnvironment environment)
    pure (some ⟨launch, launch.torchrunArguments, launch.threadVariables environment⟩)

/-- the manifest of a declared task; none if it runs as one process -/
def renderJob (task : Json) (values : NamedValues) : Except HostFault (Option Manifest) := do
  checkNames ["config_json"] values
  let task ← text task
  let settings ← optionalText values "config_json"
  let task ← parsed TaskDeclaration.ofJson "task declaration" task
  let settings ← match settings with
    | none => pure {}
    | some s => parsed Settings.ofJson "adapter config" s
  let plan ← misconfigured (Plan.ofDeclaration settings.job task)
  pure (plan.submission?.map fun s => .ofSubmission s settings.submit.ns)

/-- the phase of a snapshot under a backoff limit -/
def interpreted (s : Snapshot) (backoffLimit : Option UInt32) : Except HostFault PhaseReport :=
  (s.interpret { backoffLimit }).mapError fun _ => .overflow

/-- a report as the host shows it -/
def reportText (r : PhaseReport) : String :=
  match r.message with
  | none => "PhaseResult(phase='" ++ r.phase.text ++ "')"
  | some m => "PhaseResult(phase='" ++ r.phase.text ++ "', message='" ++ m ++ "')"

def interpretStatus (snapshot : Json) (values : NamedValues) : Except HostFault PhaseReport := do
  checkNames ["backoff_limit"] values
  let snapshot ← text snapshot
  let backoffLimit ← optionalCount values "backoff_limit"
  let snapshot ← parsed Snapshot.ofJson "status snapshot" snapshot
  interpreted snapshot backoffLimit

/-- the phase of a job with the status that the operator wrote, if it wrote one -/
def interpretOperatorStatus (job : Json) (values : NamedValues) : Except HostFault PhaseReport := do
  checkNames ["status_json", "backoff_limit"] values
  let job ← text job
  let status ← optionalText values "status_json"
  let backoffLimit ← optionalCount values "backoff_limit"
  let status ← status.mapM (parsed OperatorStatus.ofJson "PyTorchJob status")
  interpreted (.ofOperator job status) backoffLimit

end HostCall

end TrainingJobs
