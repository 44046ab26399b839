/-
Roles of a training job: how many replicas, of which image, with which command, environment and resources, and when a
finished replica is started again. One role may coordinate the others; it is the one called master, in any case.
-/
import TrainingJobs.Json.Typed
import TrainingJobs.Text.Blank

namespace TrainingJobs

def masterRole : String := "master"

def workerRole : String := "worker"

/-- a text with its ASCII letters in lower case -/
def lowerCase (s : String) : String := String.ofList (s.toList.map Char.toLower)

/-- the name designates the coordinating role -/
def isMasterRole (name : String) : Bool := lowerCase name == masterRole

/-- when a finished replica is started again -/
inductive RestartPolicy where
  | never
  | onFailure
  | always
  | exitCode
deriving DecidableEq, Repr, Inhabited

namespace RestartPolicy

def text : RestartPolicy → String
  | never => "Never"
  | onFailure => "OnFailure"
  | always => "Always"
  | exitCode => "ExitCode"

/-- a policy by its name in any case, with dashes and underscores anywhere; `failure` is short for `onfailure` -/
def parse (s : String) : Except Misconfiguration RestartPolicy :=
  let name := ((Text.trim s.toList).map Char.toLower).filter fun c => c ≠ '_' && c ≠ '-'
  if name = "never".toList then .ok never
  else if name = "onfailure".toList || name = "failure".toList then .ok onFailure
  else if name = "always".toList then .ok always
  else if name = "exitcode".toList then .ok exitCode
  else .error (.unknownRestartPolicy s)

def ofJson (v : Json) : Reading RestartPolicy :=
  v.asOneOf [("Never", never), ("OnFailure", onFailure), ("Always", always), ("ExitCode", exitCode)]

def toJson (p : RestartPolicy) : Json := .text p.text

end RestartPolicy

/-- amounts of compute resources, as quantities of the cluster -/
structure Resources where
  cpu : Option String := none
  memory : Option String := none
  gpu : Option String := none
  ephemeralStorage : Option String := none
deriving DecidableEq, Repr, Inhabited

namespace Resources

/-- the amounts that are set, under the names the cluster gives the resources -/
def entries (r : Resources) : List (String × String) :=
  [("cpu", r.cpu), ("memory", r.memory), ("nvidia.com/gpu", r.gpu), ("ephemeral-storage", r.ephemeralStorage)].filterMap
    fun (name, amount) => amount.map fun a => (name, a)

def isEmpty (r : Resources) : Bool := r.entries.isEmpty

def slots : List (Json.Slot Resources) :=
  [Json.slot "cpu" .defaulted (Json.optional Json.asText) fun r v => { r with cpu := v },
   Json.slot "memory" .defaulted (Json.optional Json.asText) fun r v => { r with memory := v },
   Json.slot "gpu" .defaulted (Json.optional Json.asText) fun r v => { r with gpu := v },
   Json.slot "ephemeral_storage" .defaulted (Json.optional Json.asText) fun r v => { r with ephemeralStorage := v }]

def ofJson : Json → Reading Resources := Json.readRecord slots {}

def toJson (r : Resources) : Json :=
  .record [("cpu", .ofOption .text r.cpu), ("memory", .ofOption .text r.memory), ("gpu", .ofOption .text r.gpu),
    ("ephemeral_storage", .ofOption .text r.ephemeralStorage)]

end Resources

structure ResourceRequirements where
  requests : Resources := {}
  limits : Resources := {}
deriving DecidableEq, Repr, Inhabited

namespace ResourceRequirements

def slots : List (Json.Slot ResourceRequirements) :=
  [Json.slot "requests" .defaulted Resources.ofJson fun r v => { r with requests := v },
   Json.slot "limits" .defaulted Resources.ofJson fun r v => { r with limits := v }]

def ofJson : Json → Reading ResourceRequirements := Json.readRecord slots {}

def toJson (r : ResourceRequirements) : Json :=
  .record [("requests", r.requests.toJson), ("limits", r.limits.toJson)]

end ResourceRequirements

/-- a role as it is declared; what is left open is settled when the job is built -/
structure RoleSpec where
  replicas : UInt32 := 0
  restartPolicy : Option RestartPolicy := none
  resources : ResourceRequirements := {}
  image : Option String := none
  command : List String := []
  env : Dict String := ∅
deriving DecidableEq, Repr, Inhabited

namespace RoleSpec

def slots : List (Json.Slot RoleSpec) :=
  [Json.slot "replicas" .defaulted Json.asCount fun r v => { r with replicas := v },
   Json.slot "restart_policy" .defaulted (Json.optional RestartPolicy.ofJson) fun r v => { r with restartPolicy := v },
   Json.slot "resources" .defaulted ResourceRequirements.ofJson fun r v => { r with resources := v },
   Json.slot "image" .defaulted (Json.optional Json.asText) fun r v => { r with image := v },
   Json.slot "command" .defaulted (Json.asList Json.asText) fun r v => { r with command := v },
   Json.slot "env" .defaulted (Json.asDict Json.asText) fun r v => { r with env := v }]

def ofJson : Json → Reading RoleSpec := Json.readRecord slots {}

def toJson (r : RoleSpec) : Json :=
  .record [("replicas", .ofCount r.replicas), ("restart_policy", .ofOption RestartPolicy.toJson r.restartPolicy),
    ("resources", r.resources.toJson), ("image", .ofOption .text r.image), ("command", .ofTexts r.command),
    ("env", .ofDict .text r.env)]

end RoleSpec

end TrainingJobs
