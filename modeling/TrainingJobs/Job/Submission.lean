/-
Submissions: jobs as they are handed to the cluster, every choice settled. The content hash is the fingerprint of what
runs, written as compact JSON in a fixed order of fields; who it runs for is not part of it.
-/
import TrainingJobs.Execution
import TrainingJobs.Json.Writer
import TrainingJobs.Role
import TrainingJobs.RunPolicy

namespace TrainingJobs

/-- a role with everything settled -/
structure Role where
  replicas : UInt32
  restartPolicy : RestartPolicy
  resources : ResourceRequirements
  image : String
  command : List String
  env : Dict String
deriving DecidableEq, Repr, Inhabited

namespace Role

def slots : List (Json.Slot Role) :=
  [Json.slot "replicas" .required Json.asCount fun r v => { r with replicas := v },
   Json.slot "restart_policy" .required RestartPolicy.ofJson fun r v => { r with restartPolicy := v },
   Json.slot "resources" .required ResourceRequirements.ofJson fun r v => { r with resources := v },
   Json.slot "image" .required Json.asText fun r v => { r with image := v },
   Json.slot "command" .required (Json.asList Json.asText) fun r v => { r with command := v },
   Json.slot "env" .required (Json.asDict Json.asText) fun r v => { r with env := v }]

def ofJson : Json → Reading Role := Json.readRecord slots default

def toJson (r : Role) : Json :=
  .record [("replicas", .ofCount r.replicas), ("restart_policy", r.restartPolicy.toJson),
    ("resources", r.resources.toJson), ("image", .text r.image), ("command", .ofTexts r.command),
    ("env", .ofDict .text r.env)]

end Role

/-- the bounds within which the operator adds and removes workers -/
structure ElasticPolicy where
  backend : String
  minReplicas : Int32
  maxReplicas : Int32
  processesPerNode : Int32
  maxRestarts : Int32
deriving DecidableEq, Repr, Inhabited

namespace ElasticPolicy

def slots : List (Json.Slot ElasticPolicy) :=
  [Json.slot "rdzvBackend" .required Json.asText fun p v => { p with backend := v },
   Json.slot "minReplicas" .required Json.asInt32 fun p v => { p with minReplicas := v },
   Json.slot "maxReplicas" .required Json.asInt32 fun p v => { p with maxReplicas := v },
   Json.slot "nProcPerNode" .required Json.asInt32 fun p v => { p with processesPerNode := v },
   Json.slot "maxRestarts" .required Json.asInt32 fun p v => { p with maxRestarts := v }]

def ofJson : Json → Reading ElasticPolicy := Json.readRecord slots default

def toJson (p : ElasticPolicy) : Json :=
  .record [("rdzvBackend", .text p.backend), ("minReplicas", .ofInt32 p.minReplicas),
    ("maxReplicas", .ofInt32 p.maxReplicas), ("nProcPerNode", .ofInt32 p.processesPerNode),
    ("maxRestarts", .ofInt32 p.maxRestarts)]

end ElasticPolicy

/-- what a job runs, without who it runs for -/
structure Content where
  roles : Dict Role
  runPolicy : RunPolicy
  elasticPolicy : Option ElasticPolicy
  processesPerNode : Option UInt32
  sharedMemory : Bool
deriving DecidableEq, Repr, Inhabited

namespace Content

def toJson (c : Content) : Json :=
  .record [("roles", .ofDict Role.toJson c.roles), ("run_policy", c.runPolicy.toJson),
    ("elastic_policy", .ofOption ElasticPolicy.toJson c.elasticPolicy),
    ("nproc_per_node", .ofOption .ofCount c.processesPerNode), ("shared_memory", .bool c.sharedMemory)]

/-- the text that is hashed -/
def canonical (c : Content) : String := c.toJson.compact

def hash (c : Content) : String := Text.fingerprint c.canonical

end Content

/-- a job for the cluster; its id is the name it has there -/
structure Submission where
  id : String
  execution : Execution
  content : Content
  contentHash : String
deriving DecidableEq, Repr, Inhabited

namespace Submission

def roles (s : Submission) : Dict Role := s.content.roles

/-- replicas of all roles together -/
def totalReplicas (s : Submission) : Except CountOverflow UInt32 := total (s.roles.values.map Role.replicas)

def slots : List (Json.Slot Submission) :=
  [Json.slot "id" .required Json.asText fun s v => { s with id := v },
   Json.slot "execution" .required Execution.ofJson fun s v => { s with execution := v },
   Json.slot "roles" .required (Json.asDict Role.ofJson) fun s v => { s with content.roles := v },
   Json.slot "run_policy" .required RunPolicy.ofJson fun s v => { s with content.runPolicy := v },
   Json.slot "elastic_policy" .nullable (Json.optional ElasticPolicy.ofJson)
     fun s v => { s with content.elasticPolicy := v },
   Json.slot "nproc_per_node" .nullable (Json.optional Json.asCount) fun s v => { s with content.processesPerNode := v },
   Json.slot "shared_memory" .required Json.asBool fun s v => { s with content.sharedMemory := v },
   Json.slot "content_hash" .required Json.asText fun s v => { s with contentHash := v }]

def ofJson : Json → Reading Submission := Json.readRecord slots default

def fields (s : Submission) : List (String × Json) :=
  [("id", .text s.id), ("execution", s.execution.toJson), ("roles", .ofDict Role.toJson s.content.roles),
    ("run_policy", s.content.runPolicy.toJson),
    ("elastic_policy", .ofOption ElasticPolicy.toJson s.content.elasticPolicy),
    ("nproc_per_node", .ofOption .ofCount s.content.processesPerNode), ("shared_memory", .bool s.content.sharedMemory),
    ("content_hash", .text s.contentHash)]

def toJson (s : Submission) : Json := .record s.fields

end Submission

end TrainingJobs
