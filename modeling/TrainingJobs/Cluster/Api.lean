/-
The API server of a cluster as its client sees it: requests, the responses as they arrive, and the replies they amount
to. The transport makes a request or says what keeps it from being made; over HTTP it is made if its address can be
written and it names its job. A response from 400 to 599 is a refusal. Its body says what was refused if it is a status
record; any other body is quoted as the message.
-/
import TrainingJobs.Cluster.Address
import TrainingJobs.Cluster.ServedJob
import TrainingJobs.Job.Manifest
import TrainingJobs.Text.Quoted

namespace TrainingJobs

inductive Request where
  | create (manifest : Manifest)
  | read (job : String)
  | delete (job : String)
deriving DecidableEq, Repr

namespace Request

def method : Request → String
  | create _ => "POST"
  | read _ => "GET"
  | delete _ => "DELETE"

/-- where the jobs of a namespace are -/
def collection (ns : String) : String := "/apis/kubeflow.org/v1/namespaces/" ++ ns ++ "/pytorchjobs"

/-- the address of a request, its query empty unless a name holds a question mark -/
def address (ns : String) : Request → String
  | create _ => collection ns ++ "?"
  | read job | delete job => collection ns ++ "/" ++ job ++ "?"

/-- the job that a request is about -/
def job : Request → String
  | create manifest => manifest.name
  | read job | delete job => job

/-- the path of a request at the server -/
def path (ns : String) (r : Request) : String := String.ofList (Address.path (r.address ns).toList)

/-- what keeps a request from being made over HTTP -/
def fault? (ns : String) (r : Request) : Option String :=
  let unnamed := match r with
    | create _ => false
    | read job | delete job => job.isEmpty
  if unnamed then some "failed to validate request: A non-empty name is required"
  else (Address.fault? (r.address ns)).map fun
    | .tooLong => "failed to build request: uri too long"
    | .badCharacter => "failed to build request: invalid uri character"

/-- what a request carries; what a deleted job owns is deleted after it -/
def body : Request → Option Json
  | create manifest => some manifest.toJson
  | read _ => none
  | delete _ => some (.record [("propagationPolicy", .text "Background")])

end Request

/-- what carries requests about the jobs of a namespace: it says what keeps a request from being made, if anything -/
structure Transport where
  fault? (ns : String) (r : Request) : Option String

def Transport.http : Transport where
  fault? ns r := r.fault? ns

/-- what arrives in answer to a request -/
inductive Response where
  | answer (status : Nat) (body : String)
  /-- nothing arrives -/
  | lost (cause : String)
deriving DecidableEq, Repr

/-- the record by which the server explains a refusal -/
structure RefusalRecord where
  status : String := ""
  message : String := ""
  reason : String := ""
  code : Nat := 0
deriving DecidableEq, Repr

namespace RefusalRecord

def slots : List (Json.Slot RefusalRecord) :=
  [Json.slot "status" .required Json.asText fun r v => { r with status := v },
   Json.slot "message" .defaulted Json.asText fun r v => { r with message := v },
   Json.slot "reason" .defaulted Json.asText fun r v => { r with reason := v },
   Json.slot "code" .required (Json.asInteger 0 65535) fun r v => { r with code := v.toNat }]

def ofJson : Json → Reading RefusalRecord := Json.readRecord slots {}

end RefusalRecord

/-! The record by which the server confirms a deletion; only its form matters. -/

namespace Confirmation

def checkCause : Json → Reading Unit :=
  Json.readRecord [Json.checked "reason" .defaulted Json.Shape.text.check,
    Json.checked "message" .defaulted Json.Shape.text.check,
    Json.checked "field" .defaulted Json.Shape.text.check] ()

def checkDetails : Json → Reading Unit :=
  Json.readRecord [Json.checked "name" .defaulted Json.Shape.text.check,
    Json.checked "group" .defaulted Json.Shape.text.check, Json.checked "kind" .defaulted Json.Shape.text.check,
    Json.checked "uid" .defaulted Json.Shape.text.check,
    Json.checked "causes" .defaulted (Json.form (Json.asList checkCause)),
    Json.checked "retryAfterSeconds" .defaulted (Json.form Json.asCount)] ()

def checkSummary (v : Json) : Reading Unit := v.asOneOf [("Success", ()), ("Failure", ())]

def check : Json → Reading Unit :=
  Json.readRecord [Json.checkedOptional "status" checkSummary,
    Json.checked "code" .defaulted (Json.form (Json.asInteger 0 65535)),
    Json.checked "message" .defaulted Json.Shape.text.check,
    Json.checkedOptional "metadata" ObjectShape.listMetadata.check,
    Json.checked "reason" .defaulted Json.Shape.text.check, Json.checkedOptional "details" checkDetails] ()

end Confirmation

/-- a response as the client understands it -/
inductive Reply where
  | accepted (job : ServedJob)
  | refused (code : Nat) (reason message : String)
  /-- no response, or none that makes sense -/
  | broken (message : String)
deriving DecidableEq, Repr

namespace Reply

def notFoundCode : Nat := 404

def conflictCode : Nat := 409

/-- the reason by which the server says that a job does not exist -/
def notFoundReason : String := "NotFound"

/-- the refusal in a response of that status and body -/
def ofRefusal (status : Nat) (body : String) : Reply :=
  match Json.parsed RefusalRecord.ofJson body with
  | .ok r => refused r.code r.reason r.message
  | .error _ => refused status "Failed to parse error data" (Text.quoted body)

/-- a deletion is answered by the job or by a confirmation, and nothing in the answer is void -/
def readDeletion (v : Json) : Reading ServedJob :=
  if !v.isSound then .error .malformed
  else if v.field? "kind" = some (.text "Status") then (Confirmation.check v).map fun _ => {}
  else ServedJob.ofJson v

/-- the job in a response to a request -/
def ofBody (request : Request) (body : String) : Reply :=
  let read := match request with
    | .delete _ => readDeletion
    | _ => ServedJob.ofJson
  match Json.parsed read body with
  | .ok job => accepted job
  | .error _ => broken "Error deserializing response"

def ofResponse (request : Request) : Response → Reply
  | .answer status body => if 400 ≤ status && status < 600 then ofRefusal status body else ofBody request body
  | .lost cause => broken ("ServiceError: " ++ cause)

end Reply

end TrainingJobs
