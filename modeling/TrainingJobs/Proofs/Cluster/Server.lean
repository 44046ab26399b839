/-
An API server that keeps what it is given. It creates a job iff the name is free, and reports a conflict otherwise; it
serves and deletes the jobs that are there, and says of any other that it does not exist. The transport that brings it
the requests is left open, and so are the job that it takes a request to be about and the wording of its refusals.

- `Reaches`: the requests about a job can be made, and the server takes them to be about that job.
- `run_apply`, `run_status`, `run_delete`: what the calls of a client come to when nobody else is there.
- `http_reaches_of_isLabel`: over HTTP, in a namespace without marks and blanks, every label is reached.
-/
import Mathlib.Tactic
import TrainingJobs.Cluster.Client
import TrainingJobs.Proofs.Job.Build

namespace TrainingJobs

/-! ## The server -/

/-- a job as the server keeps it -/
structure HeldJob where
  manifest : Manifest
  /-- none until the operator writes one -/
  status : Option OperatorStatus := none
deriving DecidableEq, Repr

/-- what a client is told of a job -/
def HeldJob.served (h : HeldJob) : ServedJob := { annotations := h.manifest.annotations, status := h.status }

/-- how a server takes requests: the job that one is about, and how it words its refusals about a job -/
structure Frontend where
  subject (ns : String) (r : Request) : String
  taken : String → String
  missing : String → String

/-- every request is about the job that it names -/
def Frontend.literal : Frontend := ⟨fun _ r => r.job, id, id⟩

/-- the requests about a job can be made, and the server takes them to be about that job -/
structure Reaches (net : Transport) (front : Frontend) (ns job : String) : Prop where
  made : ∀ r : Request, r.job = job → net.fault? ns r = none
  meant : ∀ r : Request, r.job = job → front.subject ns r = job

/-- the jobs of a namespace by their names -/
structure ApiServer where
  jobs : Dict HeldJob := ∅
deriving DecidableEq, Repr

namespace ApiServer

/-- the refusal of a request about a job that is not there -/
def noSuchJob (front : Frontend) (job : String) : Reply :=
  .refused Reply.notFoundCode Reply.notFoundReason (front.missing job)

def serve (ns : String) (front : Frontend) (a : ApiServer) (r : Request) : Reply × ApiServer :=
  let job := front.subject ns r
  match r with
  | .create m =>
    match a.jobs.find? job with
    | none => (.accepted ({ manifest := m } : HeldJob).served, { jobs := a.jobs.insert job { manifest := m } })
    | some _ => (.refused Reply.conflictCode "AlreadyExists" (front.taken job), a)
  | .read _ =>
    match a.jobs.find? job with
    | none => (noSuchJob front job, a)
    | some held => (.accepted held.served, a)
  | .delete _ =>
    match a.jobs.find? job with
    | none => (noSuchJob front job, a)
    | some held => (.accepted held.served, { jobs := a.jobs.erase job })

/-- the operator writes a status on a job, if it is there -/
def report (a : ApiServer) (job : String) (status : OperatorStatus) : ApiServer :=
  match a.jobs.find? job with
  | none => a
  | some h => { jobs := a.jobs.insert job { h with status := some status } }

end ApiServer

/-! ## Calls on it -/

namespace Call

variable {net : Transport} {front : Frontend} {ns job : String}

theorem send_made {α : Type} {r : Request} (h : net.fault? ns r = none) (next : Reply → Call α) :
    send net ns r next = .ask r next := by
  rw [send, h]

theorem send_unmade {α : Type} {r : Request} {cause : String} (h : net.fault? ns r = some cause)
    (next : Reply → Call α) : send net ns r next = next (.broken ("Failed to build request: " ++ cause)) := by
  rw [send, h]

theorem run_apply {s : Submission} (h : Reaches net front ns s.id) (a : ApiServer) :
    (apply ns s net).run (ApiServer.serve ns front) a =
      match a.jobs.find? s.id with
      | none => (.ok .created, { jobs := a.jobs.insert s.id { manifest := .ofSubmission s ns } })
      | some held => (reconcile s (held.manifest.annotations.find? Manifest.hashKey), a) := by
  have hcreate : front.subject ns (.create (.ofSubmission s ns)) = s.id := h.meant _ rfl
  have hread : front.subject ns (.read s.id) = s.id := h.meant _ rfl
  rw [apply, send_made (h.made _ rfl), run]
  simp only [ApiServer.serve, hcreate]
  cases hfind : a.jobs.find? s.id with
  | none => rfl
  | some held =>
    simp only [if_true, compare, send_made (h.made (.read s.id) rfl), run, ApiServer.serve, hread, hfind]
    rfl

theorem run_status (h : Reaches net front ns job) (a : ApiServer) :
    (status ns job net).run (ApiServer.serve ns front) a =
      (.ok ((a.jobs.find? job).map fun held => .ofOperator job held.status), a) := by
  have hread : front.subject ns (.read job) = job := h.meant _ rfl
  rw [status, send_made (h.made _ rfl), run]
  simp only [ApiServer.serve, hread]
  cases a.jobs.find? job <;> rfl

theorem run_delete (h : Reaches net front ns job) (a : ApiServer) :
    (delete ns job net).run (ApiServer.serve ns front) a =
      match a.jobs.find? job with
      | none => (.error (.jobNotFound job), a)
      | some _ => (.ok (), { jobs := a.jobs.erase job }) := by
  have hdelete : front.subject ns (.delete job) = job := h.meant _ rfl
  rw [delete, send_made (h.made _ rfl), run]
  simp only [ApiServer.serve, hdelete]
  cases a.jobs.find? job <;> rfl

end Call

/-! ## Labels over HTTP -/

namespace Address

/-- every character may stand in a path, and none ends it -/
def InPath (s : String) : Prop := ∀ c ∈ s.toList, isPathChar c = true ∧ endsPath c = false

-- by its characters: left to itself the search may settle on an enumeration of all there are
instance (s : String) : Decidable (InPath s) := List.decidableBAll _ s.toList

theorem InPath.append {s t : String} (hs : InPath s) (ht : InPath t) : InPath (s ++ t) := by
  intro c hc
  rw [String.toList_append] at hc
  exact (List.mem_append.1 hc).elim (hs c) (ht c)

/-- a path before the mark of a query that is empty -/
theorem fault_eq_none {s : String} (h : InPath s) (hsize : (s ++ "?").utf8ByteSize ≤ maxSize) :
    fault? (s ++ "?") = none := by
  have hplain : ∀ c ∈ s.toList, (!endsPath c) = true := fun c hc => by rw [(h c hc).2]; rfl
  have hpath : path (s ++ "?").toList = s.toList := by
    rw [String.toList_append, path, List.takeWhile_append_of_pos hplain]
    exact List.append_nil _
  have hquery : query (s ++ "?").toList = [] := by
    rw [String.toList_append, query, List.dropWhile_append_of_pos hplain]
    rfl
  have hchars : s.toList.all isPathChar = true := List.all_eq_true.2 fun c hc => (h c hc).1
  rw [fault?, if_neg (Nat.not_lt.2 hsize), hpath, hquery, hchars]
  rfl

theorem inPath_of_isLabel {s : String} (h : Text.isLabel s = true) : InPath s := fun c hc =>
  of_isLabelChar (p := fun c => isPathChar c = true ∧ endsPath c = false) (by decide) (isLabelChar_of_isLabel h c hc)

end Address

theorem inPath_collection {ns : String} (h : Address.InPath ns) : Address.InPath (Request.collection ns) := by
  have hstart : Address.InPath "/apis/kubeflow.org/v1/namespaces/" := by decide
  have hend : Address.InPath "/pytorchjobs" := by decide
  exact (hstart.append h).append hend

theorem utf8ByteSize_collection (ns : String) : (Request.collection ns).utf8ByteSize = ns.utf8ByteSize + 45 := by
  have hparts : Request.collection ns = "/apis/kubeflow.org/v1/namespaces/" ++ ns ++ "/pytorchjobs" := rfl
  have hstart : "/apis/kubeflow.org/v1/namespaces/".utf8ByteSize = 33 := by decide
  have hend : "/pytorchjobs".utf8ByteSize = 12 := by decide
  rw [hparts, String.utf8ByteSize_append, String.utf8ByteSize_append, hstart, hend]
  omega

/-- In a namespace whose characters may all stand in a path, and which is not too long, every label is reached. -/
theorem http_reaches_of_isLabel {ns job : String} (hns : Address.InPath ns) (hsize : ns.utf8ByteSize ≤ 65424)
    (hjob : Text.isLabel job = true) : Reaches .http .literal ns job := by
  have hlength : job.utf8ByteSize ≤ 63 := by
    simp only [Text.isLabel, Bool.and_eq_true, decide_eq_true_eq] at hjob
    exact hjob.1
  have hnamed : job.isEmpty = false := by
    rw [Bool.eq_false_iff]
    intro hempty
    rw [String.isEmpty_iff.1 hempty] at hjob
    exact absurd hjob (by decide)
  have hcollection : Address.InPath (Request.collection ns) := inPath_collection hns
  have hplace : Address.InPath (Request.collection ns ++ "/" ++ job) := by
    have hslash : Address.InPath "/" := by decide
    exact (hcollection.append hslash).append (Address.inPath_of_isLabel hjob)
  have hslash : "/".utf8ByteSize = 1 := by decide
  have hmark : "?".utf8ByteSize = 1 := by decide
  have hcreate : Address.fault? (Request.collection ns ++ "?") = none := by
    apply Address.fault_eq_none hcollection
    rw [String.utf8ByteSize_append, utf8ByteSize_collection, Address.maxSize]
    omega
  have hread : Address.fault? (Request.collection ns ++ "/" ++ job ++ "?") = none := by
    apply Address.fault_eq_none hplace
    rw [String.utf8ByteSize_append, String.utf8ByteSize_append, String.utf8ByteSize_append,
      utf8ByteSize_collection, Address.maxSize]
    omega
  refine ⟨?_, fun r hr => hr⟩
  rintro (m | name | name) hr
  · simp [Transport.http, Request.fault?, Request.address, hcreate]
  · obtain rfl : name = job := hr
    simp [Transport.http, Request.fault?, Request.address, hnamed, hread]
  · obtain rfl : name = job := hr
    simp [Transport.http, Request.fault?, Request.address, hnamed, hread]

/-- a job of that many workers -/
def workers (replicas : UInt32) : JobDraft :=
  .run { project := "ml", domain := "dev", name := "exec1", node := "n0" }
    [.defaultImage "trainer:1.0", .role workerRole { replicas }]

end TrainingJobs
