/-
Manifests: the resource of kind PyTorchJob that the cluster stores for a submission. What is absent is left out. Counts
are words of the submission read as signed numbers of the same width.

- `find?_hash`, `find?_execution`: what a manifest says of its submission besides the job itself.
-/
import TrainingJobs.Job.Submission

namespace TrainingJobs

structure ManifestRunPolicy where
  cleanPodPolicy : Option CleanPodPolicy
  ttlSecondsAfterFinished : Option Int32
  activeDeadlineSeconds : Option Int64
  backoffLimit : Option Int32
deriving DecidableEq, Repr

structure Container where
  image : String
  command : List String
  env : List (String × String)
  /-- amounts by resource; none when nothing is set -/
  requests : Option (Dict String)
  limits : Option (Dict String)
deriving DecidableEq, Repr

structure ReplicaSpec where
  replicas : Int32
  restartPolicy : RestartPolicy
  container : Container
  /-- a memory-backed volume at `/dev/shm` -/
  sharedMemory : Bool
deriving DecidableEq, Repr

structure Manifest where
  name : String
  ns : String
  annotations : Dict String
  runPolicy : Option ManifestRunPolicy
  elasticPolicy : Option ElasticPolicy
  processesPerNode : Option String
  /-- by role key -/
  replicas : Dict ReplicaSpec
deriving DecidableEq, Repr

namespace Manifest

def hashKey : String := "torchjob/content-hash"

def executionKey : String := "torchjob/task-execution"

def containerName : String := "pytorch"

def volumeName : String := "shm"

def volumePath : String := "/dev/shm"

def runPolicyOf (p : RunPolicy) : Option ManifestRunPolicy :=
  if p = {} then none
  else some {
    cleanPodPolicy := p.cleanPodPolicy
    ttlSecondsAfterFinished := p.ttlSecondsAfterFinished.map UInt32.toInt32
    activeDeadlineSeconds := p.activeDeadlineSeconds.map UInt64.toInt64
    backoffLimit := p.backoffLimit.map UInt32.toInt32 }

def quantities (r : Resources) : Option (Dict String) := if r.isEmpty then none else some (.ofList r.entries)

def containerOf (r : Role) : Container where
  image := r.image
  command := r.command
  env := r.env.entries
  requests := quantities r.resources.requests
  limits := quantities r.resources.limits

def replicaOf (sharedMemory : Bool) (r : Role) : ReplicaSpec where
  replicas := r.replicas.toInt32
  restartPolicy := r.restartPolicy
  container := containerOf r
  sharedMemory := sharedMemory

/-- the manifest of a submission; of two roles with one key the later name stays -/
def ofSubmission (s : Submission) (ns : String) : Manifest where
  name := s.id
  ns := ns
  annotations := .ofList [(hashKey, s.contentHash), (executionKey, s.execution.text)]
  runPolicy := runPolicyOf s.content.runPolicy
  elasticPolicy := s.content.elasticPolicy
  processesPerNode := s.content.processesPerNode.map fun n => Text.decimal n.toNat
  replicas := .ofList (s.roles.entries.map fun e => (roleKey e.1, replicaOf s.content.sharedMemory e.2))

theorem find?_annotations (s : Submission) (ns name : String) : (ofSubmission s ns).annotations.find? name =
    List.lookup name [(hashKey, s.contentHash), (executionKey, s.execution.text)] :=
  Dict.find?_ofList (by simp [hashKey, executionKey]) name

theorem find?_hash (s : Submission) (ns : String) :
    (ofSubmission s ns).annotations.find? hashKey = some s.contentHash := find?_annotations s ns hashKey

theorem find?_execution (s : Submission) (ns : String) :
    (ofSubmission s ns).annotations.find? executionKey = some s.execution.text := find?_annotations s ns executionKey

/-- the list, unless it is empty -/
def unlessEmpty (items : List Json) : Option Json := if items.isEmpty then none else some (.list items)

def runPolicyJson (p : ManifestRunPolicy) : Json :=
  .ofPresent [("cleanPodPolicy", p.cleanPodPolicy.map CleanPodPolicy.toJson),
    ("ttlSecondsAfterFinished", p.ttlSecondsAfterFinished.map .ofInt32),
    ("activeDeadlineSeconds", p.activeDeadlineSeconds.map .ofInt64), ("backoffLimit", p.backoffLimit.map .ofInt32)]

def resourcesJson (c : Container) : Option Json :=
  if c.requests.isNone && c.limits.isNone then none
  else some (.ofPresent [("limits", c.limits.map (.ofDict .text)), ("requests", c.requests.map (.ofDict .text))])

def containerJson (c : Container) (sharedMemory : Bool) : Json :=
  let mount : Json := .record [("mountPath", .text volumePath), ("name", .text volumeName)]
  .ofPresent [("command", unlessEmpty (c.command.map .text)),
    ("env", unlessEmpty (c.env.map fun (name, value) => .record [("name", .text name), ("value", .text value)])),
    ("image", some (.text c.image)), ("name", some (.text containerName)), ("resources", resourcesJson c),
    ("volumeMounts", unlessEmpty (if sharedMemory then [mount] else []))]

def replicaJson (r : ReplicaSpec) : Json :=
  let volume : Json := .record [("emptyDir", .record [("medium", .text "Memory")]), ("name", .text volumeName)]
  .record [("replicas", .ofInt32 r.replicas), ("restartPolicy", r.restartPolicy.toJson),
    ("template", .record [("spec", .ofPresent [
      ("containers", some (.list [containerJson r.container r.sharedMemory])),
      ("volumes", unlessEmpty (if r.sharedMemory then [volume] else []))])])]

/-- the manifest as the cluster receives it -/
def toJson (m : Manifest) : Json :=
  .record [("apiVersion", .text "kubeflow.org/v1"), ("kind", .text "PyTorchJob"),
    ("metadata", .record [("annotations", .ofDict .text m.annotations), ("name", .text m.name),
      ("namespace", .text m.ns)]),
    ("spec", .ofPresent [("runPolicy", m.runPolicy.map runPolicyJson),
      ("elasticPolicy", m.elasticPolicy.map ElasticPolicy.toJson), ("nprocPerNode", m.processesPerNode.map .text),
      ("pytorchReplicaSpecs", some (.ofDict replicaJson m.replicas))])]

end Manifest

end TrainingJobs
