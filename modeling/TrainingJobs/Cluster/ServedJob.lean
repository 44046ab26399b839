/-
Jobs as the API server serves them, and what a client takes from one: its annotations and its status. The rest of the
job is only checked for its form.
-/
import TrainingJobs.Cluster.PodTemplate
import TrainingJobs.Job.Submission
import TrainingJobs.Status.Operator

namespace TrainingJobs

/-- what a client takes from a job that the server holds -/
structure ServedJob where
  annotations : Dict String := ∅
  status : Option OperatorStatus := none
deriving DecidableEq, Repr

namespace ServedJob

def readAnnotations (metadata : Json) : Reading (Dict String) := do
  ObjectShape.metadata.check metadata
  match metadata.field? "annotations" with
  | none | some .null => pure ∅
  | some annotations => annotations.asDict Json.asText

def checkRunPolicy : Json → Reading Unit :=
  Json.readRecord [Json.checkedOptional "cleanPodPolicy" Json.Shape.text.check,
    Json.checkedOptional "ttlSecondsAfterFinished" Json.Shape.int32.check,
    Json.checkedOptional "activeDeadlineSeconds" Json.Shape.int64.check,
    Json.checkedOptional "backoffLimit" Json.Shape.int32.check] ()

def checkReplicaSpec : Json → Reading Unit :=
  Json.readRecord [Json.checkedOptional "replicas" Json.Shape.int32.check,
    Json.checkedOptional "restartPolicy" Json.Shape.text.check,
    Json.checked "template" .required PodTemplate.shape.check] ()

def checkSpec : Json → Reading Unit :=
  Json.readRecord [Json.checkedOptional "runPolicy" checkRunPolicy,
    Json.checkedOptional "elasticPolicy" (Json.form ElasticPolicy.ofJson),
    Json.checkedOptional "nprocPerNode" Json.Shape.text.check,
    Json.checked "pytorchReplicaSpecs" .required (Json.form (Json.asDict checkReplicaSpec))] ()

def slots : List (Json.Slot ServedJob) :=
  [Json.slot "metadata" .required readAnnotations fun j v => { j with annotations := v },
   Json.slot "spec" .required checkSpec fun j _ => j,
   Json.slot "status" .nullable (Json.optional OperatorStatus.ofJson) fun j v => { j with status := v }]

def ofJson : Json → Reading ServedJob := Json.readRecord slots {}

end ServedJob

end TrainingJobs
