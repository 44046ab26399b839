/-
A client of the API server. A call is a number of requests, each chosen by the replies to those before it, so that other
clients may act between two requests. To hand over a job is to create it, and if its name is taken to read the job that
holds the name. Where the transport makes no request, the call goes on as if nothing had answered.
-/
import TrainingJobs.Cluster.Api
import TrainingJobs.Cluster.Outcome

namespace TrainingJobs

inductive Call (α : Type) where
  | done (result : α)
  | ask (request : Request) (next : Reply → Call α)

namespace Call

/-- the result of a call on a server, and the server after it -/
def run {σ α : Type} (serve : σ → Request → Reply × σ) : Call α → σ → α × σ
  | done result, s => (result, s)
  | ask request next, s => run serve (next (serve s request).1) (serve s request).2

/-- the call with another form of its result -/
def map {α β : Type} (f : α → β) : Call α → Call β
  | done result => done (f result)
  | ask request next => ask request fun reply => (next reply).map f

/-- makes a request, or finds that it cannot be made -/
def send {α : Type} (net : Transport) (ns : String) (request : Request) (next : Reply → Call α) : Call α :=
  match net.fault? ns request with
  | some cause => next (.broken ("Failed to build request: " ++ cause))
  | none => .ask request next

def refuse (s : Submission) (message : String) : Call (Except Error ApplyOutcome) :=
  .done (.error (.submission s.id (.stated message)))

/-- whether the job that holds the name of a submission is that submission -/
def compare (ns : String) (s : Submission) (net : Transport := .http) : Call (Except Error ApplyOutcome) :=
  send net ns (.read s.id) fun
    | .accepted held => .done (reconcile s (held.annotations.find? Manifest.hashKey))
    | .refused _ _ message => refuse s message
    | .broken message => refuse s message

/-- hands over a job -/
def apply (ns : String) (s : Submission) (net : Transport := .http) : Call (Except Error ApplyOutcome) :=
  send net ns (.create (.ofSubmission s ns)) fun
    | .accepted _ => .done (.ok .created)
    | .refused code _ message => if code = Reply.conflictCode then compare ns s net else refuse s message
    | .broken message => refuse s message

/-- the status of a job; none if there is no such job -/
def status (ns job : String) (net : Transport := .http) : Call (Except Error (Option Snapshot)) :=
  send net ns (.read job) fun
    | .accepted held => .done (.ok (some (.ofOperator job held.status)))
    | .refused _ reason message =>
      .done (if reason = Reply.notFoundReason then .ok none else .error (.transientStatus job message))
    | .broken message => .done (.error (.transientStatus job message))

def delete (ns job : String) (net : Transport := .http) : Call (Except Error Unit) :=
  send net ns (.delete job) fun
    | .accepted _ => .done (.ok ())
    | .refused code _ message =>
      .done (.error (if code = Reply.notFoundCode then .jobNotFound job else .transientStatus job message))
    | .broken message => .done (.error (.transientStatus job message))

end Call

/-- a server that gives prepared responses and keeps the requests, the last one first -/
structure Script where
  responses : List Response
  requests : List Request := []

namespace Script

def serve (s : Script) (request : Request) : Reply × Script :=
  match s.responses with
  | [] => (.broken "ServiceError: no response", ⟨[], request :: s.requests⟩)
  | response :: rest => (.ofResponse request response, ⟨rest, request :: s.requests⟩)

/-- the result of a call and the requests it made, in their order -/
def play {α : Type} (call : Call α) (responses : List Response) : α × List Request :=
  let (result, s) := call.run serve ⟨responses, []⟩
  (result, s.requests.reverse)

end Script

end TrainingJobs
