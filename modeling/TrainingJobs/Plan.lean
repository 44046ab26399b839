/-
Plans: a task either runs as one process or becomes a submission. An elastic task that needs several nodes becomes a job
of workers, a master and worker configuration a job of both roles; a task may declare one of the two, and one that
declares neither is elastic with the defaults.
-/
import TrainingJobs.Job.MasterWorker
import TrainingJobs.Settings

namespace TrainingJobs

/-- a task as its author declares it -/
structure TaskDeclaration where
  name : String := ""
  execution : Execution := {}
  elastic : Option ElasticConfig := none
  masterWorker : Option MasterWorkerConfig := none
  /-- what all replicas start from -/
  worker : RoleSpec := {}
deriving DecidableEq, Repr, Inhabited

namespace TaskDeclaration

def slots : List (Json.Slot TaskDeclaration) :=
  [Json.slot "name" .defaulted Json.asText fun t v => { t with name := v },
   Json.slot "execution" .defaulted Execution.ofJson fun t v => { t with execution := v },
   Json.slot "elastic" .defaulted (Json.optional ElasticConfig.ofJson) fun t v => { t with elastic := v },
   Json.slot "pytorch" .defaulted (Json.optional MasterWorkerConfig.ofJson) fun t v => { t with masterWorker := v },
   Json.slot "worker" .defaulted RoleSpec.ofJson fun t v => { t with worker := v }]

def ofJson : Json → Reading TaskDeclaration := Json.readRecord slots {}

def toJson (t : TaskDeclaration) : Json :=
  .record [("name", .text t.name), ("execution", t.execution.toJson),
    ("elastic", .ofOption ElasticConfig.toJson t.elastic),
    ("pytorch", .ofOption MasterWorkerConfig.toJson t.masterWorker), ("worker", t.worker.toJson)]

/-- a declaration from its JSON text -/
def parse (text : String) : Reading TaskDeclaration := Json.parsed ofJson text

end TaskDeclaration

inductive Plan where
  | singleProcess
  | distributed (submission : Submission)
deriving DecidableEq, Repr

namespace Plan

def taskType : Plan → TaskType
  | singleProcess => .singleProcess
  | distributed _ => .distributed

def submission? : Plan → Option Submission
  | singleProcess => none
  | distributed s => some s

/-- the draft of an elastic job with what the defaults add: an image for a template without one, and the last word on
shared memory -/
def elasticJob (defaults : JobDefaults) (execution : Execution) (launch : ElasticLaunch) (config : ElasticConfig)
    (template : RoleSpec) : JobDraft :=
  let draft := (elasticDraft execution launch config template).apply
    (.sharedMemory (config.sharedMemory && defaults.sharedMemory))
  match defaults.image with
  | none => draft
  | some image => draft.apply (.defaultImage image)

/-- plans an elastic task for an execution -/
def ofElastic (defaults : JobDefaults) (task : ElasticTask) (execution : Execution) (template : RoleSpec) :
    Except Misconfiguration Plan := do
  match ← task.mode defaults.backend with
  | .singleNode => pure .singleProcess
  | .multiNode launch => distributed <$> (elasticJob defaults execution launch task.config template).build

/-- plans a job of master and workers; it needs an image to fall back on even if no replica uses it -/
def ofMasterWorker (defaults : JobDefaults) (config : MasterWorkerConfig) (execution : Execution)
    (template : RoleSpec) : Except Misconfiguration Plan := do
  match defaults.image.or template.image with
  | none => throw .noDefaultImage
  | some image =>
    let draft ← config.draft execution template image
    distributed <$> (draft.apply (.sharedMemory (config.sharedMemory && defaults.sharedMemory))).build

def ofDeclaration (defaults : JobDefaults) (task : TaskDeclaration) : Except Misconfiguration Plan :=
  match task.elastic, task.masterWorker with
  | some _, some _ => .error (.twoModes task.name)
  | none, some config => ofMasterWorker defaults config task.execution task.worker
  | some config, none => ofElastic defaults ⟨task.name, config⟩ task.execution task.worker
  | none, none => ofElastic defaults ⟨task.name, {}⟩ task.execution task.worker

end Plan

end TrainingJobs
