/-
Two clusters for one client: the API server, which knows a job by its manifest and the operator's status, and the
cluster in memory, which knows it by its submission and a snapshot. What a client can see of the two is compared answer
by answer, over any sequence of jobs handed over, statuses asked for, jobs deleted and statuses put in by the operator.

- `step_related`: one operation gives one answer on both and keeps their jobs alike.
- `backends_agree`: as long as requests reach every job that is asked about, a client cannot tell the two apart.
- `backends_differ`: in a namespace with a blank it can.
-/
import Mathlib.Tactic
import TrainingJobs.Cluster.Local
import TrainingJobs.Proofs.Cluster.Server
import TrainingJobs.Proofs.Job.Build

namespace TrainingJobs.Backends

/-! ## Operations and their answers -/

inductive Op where
  | apply (s : Submission)
  | status (job : String)
  | delete (job : String)
  /-- the operator puts in a status, if the job is there -/
  | report (job : String) (status : OperatorStatus)
deriving DecidableEq, Repr

/-- the job that an operation is about -/
def Op.job : Op → String
  | .apply s => s.id
  | .status job | .delete job | .report job _ => job

inductive Answer where
  | applied (result : Except Error ApplyOutcome)
  | observed (result : Except Error (Option Snapshot))
  | deleted (result : Except Error Unit)
  | reported (found : Bool)
deriving DecidableEq, Repr

/-- an operation through the API server -/
def serverStep (net : Transport) (ns : String) (front : Frontend) (a : ApiServer) : Op → Answer × ApiServer
  | .apply s =>
    let (result, b) := (Call.apply ns s net).run (ApiServer.serve ns front) a
    (.applied result, b)
  | .status job =>
    let (result, b) := (Call.status ns job net).run (ApiServer.serve ns front) a
    (.observed result, b)
  | .delete job =>
    let (result, b) := (Call.delete ns job net).run (ApiServer.serve ns front) a
    (.deleted result, b)
  | .report job status => (.reported (a.jobs.contains job), a.report job status)

/-- an operation on the cluster in memory -/
def localStep (c : LocalCluster) : Op → Answer × LocalCluster
  | .apply s => (.applied (c.apply s).1, (c.apply s).2)
  | .status job => (.observed (c.status job), c)
  | .delete job =>
    match c.delete job with
    | .ok d => (.deleted (.ok ()), d)
    | .error e => (.deleted (.error e), c)
  | .report job status =>
    match c.setStatus (.ofOperator job (some status)) with
    | .ok d => (.reported true, d)
    | .error _ => (.reported false, c)

/-- the answers to operations in turn -/
def answers {σ : Type} (step : σ → Op → Answer × σ) (s : σ) : List Op → List Answer
  | [] => []
  | o :: ops => (step s o).1 :: answers step (step s o).2 ops

/-! ## Clusters with the same jobs -/

/-- one job, as the API server and as the cluster in memory keep it -/
structure Alike (ns name : String) (held : HeldJob) (stored : StoredJob) : Prop where
  manifest : stored.manifest = held.manifest
  submission : held.manifest = .ofSubmission stored.submission ns
  status : stored.status = held.status.map fun status => .ofOperator name (some status)

theorem Alike.hash {ns name : String} {held : HeldJob} {stored : StoredJob} (h : Alike ns name held stored) :
    held.manifest.annotations.find? Manifest.hashKey = some stored.submission.contentHash := by
  rw [h.submission, Manifest.find?_hash]

theorem Alike.snapshot {ns name : String} {held : HeldJob} {stored : StoredJob} (h : Alike ns name held stored) :
    stored.status.getD (.ofAccepted name) = .ofOperator name held.status := by
  rw [h.status]
  cases held.status <;> rfl

/-- the clusters hold the same jobs, and the one in memory has not been told to refuse a job or to hide a status -/
structure Related (ns : String) (a : ApiServer) (c : LocalCluster) : Prop where
  home : c.ns = ns
  willing : c.rejection = none
  shown : c.unavailable = ∅
  jobs : ∀ name, Option.Rel (Alike ns name) (a.jobs.find? name) (c.jobs.find? name)

namespace Related

variable {ns : String} {a : ApiServer} {c : LocalCluster} (h : Related ns a c)

include h

theorem free {name : String} (hfree : a.jobs.find? name = none) : c.jobs.find? name = none := by
  have hrel := h.jobs name
  rw [hfree] at hrel
  cases hfind : c.jobs.find? name with
  | none => rfl
  | some stored =>
    rw [hfind] at hrel
    cases hrel

theorem taken {name : String} {held : HeldJob} (htaken : a.jobs.find? name = some held) :
    ∃ stored, c.jobs.find? name = some stored ∧ Alike ns name held stored := by
  have hrel := h.jobs name
  rw [htaken] at hrel
  cases hfind : c.jobs.find? name with
  | none =>
    rw [hfind] at hrel
    cases hrel
  | some stored =>
    rw [hfind] at hrel
    cases hrel with
    | some halike => exact ⟨stored, rfl, halike⟩

theorem insert {name : String} {held : HeldJob} {stored : StoredJob} (halike : Alike ns name held stored) :
    Related ns { jobs := a.jobs.insert name held } { c with jobs := c.jobs.insert name stored } := by
  refine ⟨h.home, h.willing, h.shown, fun other => ?_⟩
  rw [Dict.find?_insert, Dict.find?_insert]
  by_cases hname : name = other
  · rw [if_pos hname, if_pos hname]
    exact .some (hname ▸ halike)
  · rw [if_neg hname, if_neg hname]
    exact h.jobs other

theorem erase (name : String) :
    Related ns { jobs := a.jobs.erase name } { c with jobs := c.jobs.erase name } := by
  refine ⟨h.home, h.willing, h.shown, fun other => ?_⟩
  rw [Dict.find?_erase, Dict.find?_erase]
  by_cases hname : name = other
  · rw [if_pos hname, if_pos hname]
    exact .none
  · rw [if_neg hname, if_neg hname]
    exact h.jobs other

theorem countCall : Related ns a c.countCall := ⟨h.home, h.willing, h.shown, h.jobs⟩

end Related

theorem init_related (ns : String) : Related ns {} { ns } := ⟨rfl, rfl, rfl, fun _ => .none⟩

/-! ## One operation -/

theorem observe_job (s : Snapshot) (c : OperatorCondition) : (s.observe c).job = s.job := by
  unfold Snapshot.observe
  split_ifs <;> rfl

theorem ofOperator_job (job : String) (status : Option OperatorStatus) :
    (Snapshot.ofOperator job status).job = job := by
  cases status with
  | none => rfl
  | some status =>
    have hfold : ∀ (cs : List OperatorCondition) (s : Snapshot), (cs.foldl Snapshot.observe s).job = s.job := by
      intro cs
      induction cs with
      | nil => exact fun s => rfl
      | cons c cs ih => exact fun s => (ih (s.observe c)).trans (observe_job s c)
    exact hfold status.conditions (.ofAccepted job)

section Step

variable {net : Transport} {ns : String} {front : Frontend} {a : ApiServer} {c : LocalCluster} (h : Related ns a c)

include h

theorem apply_related {s : Submission} (hreach : Reaches net front ns s.id) :
    (serverStep net ns front a (.apply s)).1 = (localStep c (.apply s)).1 ∧
      Related ns (serverStep net ns front a (.apply s)).2 (localStep c (.apply s)).2 := by
  have happly : c.apply s = c.countCall.enter s := by
    have hwilling : c.countCall.rejection = none := h.willing
    rw [LocalCluster.apply, LocalCluster.takeIn, hwilling]
  simp only [serverStep, localStep, Call.run_apply hreach, happly]
  cases hfind : a.jobs.find? s.id with
  | none =>
    have hfree : c.countCall.jobs.find? s.id = none := h.free hfind
    have halike : Alike ns s.id { manifest := .ofSubmission s ns }
        { submission := s, manifest := .ofSubmission s c.countCall.ns } :=
      ⟨congrArg (Manifest.ofSubmission s) h.home, rfl, rfl⟩
    rw [LocalCluster.enter, hfree]
    exact ⟨rfl, h.countCall.insert halike⟩
  | some held =>
    obtain ⟨stored, hstored, halike⟩ := h.taken hfind
    have htaken : c.countCall.jobs.find? s.id = some stored := hstored
    rw [LocalCluster.enter, htaken]
    exact ⟨by simp only [halike.hash], h.countCall⟩

theorem status_related {job : String} (hreach : Reaches net front ns job) :
    (serverStep net ns front a (.status job)).1 = (localStep c (.status job)).1 ∧
      Related ns (serverStep net ns front a (.status job)).2 (localStep c (.status job)).2 := by
  have hshown : c.unavailable.contains job = false := by
    rw [h.shown]
    rfl
  simp only [serverStep, localStep, Call.run_status hreach, LocalCluster.status, hshown, Bool.false_eq_true, if_false]
  refine ⟨?_, h⟩
  cases hfind : a.jobs.find? job with
  | none =>
    rw [h.free hfind]
    rfl
  | some held =>
    obtain ⟨stored, htaken, halike⟩ := h.taken hfind
    rw [htaken, Option.map_some, Option.map_some, halike.snapshot]

theorem delete_related {job : String} (hreach : Reaches net front ns job) :
    (serverStep net ns front a (.delete job)).1 = (localStep c (.delete job)).1 ∧
      Related ns (serverStep net ns front a (.delete job)).2 (localStep c (.delete job)).2 := by
  simp only [serverStep, localStep, Call.run_delete hreach, LocalCluster.delete]
  cases hfind : a.jobs.find? job with
  | none =>
    have hfree : c.jobs.contains job = false := by rw [Dict.contains, h.free hfind, Option.isSome_none]
    rw [if_neg (by rw [hfree]; exact Bool.false_ne_true)]
    exact ⟨rfl, h⟩
  | some held =>
    obtain ⟨stored, htaken, _⟩ := h.taken hfind
    have htaken : c.jobs.contains job = true := by rw [Dict.contains, htaken, Option.isSome_some]
    rw [if_pos htaken]
    exact ⟨rfl, h.erase job⟩

theorem report_related (job : String) (status : OperatorStatus) :
    (serverStep net ns front a (.report job status)).1 = (localStep c (.report job status)).1 ∧
      Related ns (serverStep net ns front a (.report job status)).2 (localStep c (.report job status)).2 := by
  simp only [serverStep, localStep, ApiServer.report, LocalCluster.setStatus, Dict.contains, ofOperator_job]
  cases hfind : a.jobs.find? job with
  | none =>
    rw [h.free hfind]
    exact ⟨rfl, h⟩
  | some held =>
    obtain ⟨stored, htaken, halike⟩ := h.taken hfind
    rw [htaken]
    have hreported : Alike ns job { held with status := some status }
        { stored with status := some (.ofOperator job (some status)) } :=
      ⟨halike.manifest, halike.submission, rfl⟩
    exact ⟨rfl, h.insert hreported⟩

/-- **One operation.** On clusters with the same jobs an operation gives the same answer and leaves the same jobs. -/
theorem step_related (o : Op) (hreach : Reaches net front ns o.job) :
    (serverStep net ns front a o).1 = (localStep c o).1 ∧
      Related ns (serverStep net ns front a o).2 (localStep c o).2 := by
  cases o with
  | apply s => exact apply_related h hreach
  | status job => exact status_related h hreach
  | delete job => exact delete_related h hreach
  | report job status => exact report_related h job status

end Step

/-! ## Sequences of operations -/

theorem answers_eq {net : Transport} {ns : String} {front : Frontend} {a : ApiServer} {c : LocalCluster}
    (h : Related ns a c) {ops : List Op} (hreach : ∀ o ∈ ops, Reaches net front ns o.job) :
    answers (serverStep net ns front) a ops = answers localStep c ops := by
  induction ops generalizing a c with
  | nil => rfl
  | cons o ops ih =>
    obtain ⟨hanswer, hnext⟩ := step_related h o (hreach o List.mem_cons_self)
    rw [answers, answers, hanswer, ih hnext fun o ho => hreach o (List.mem_cons_of_mem _ ho)]

/-! ## Requests that cannot be made -/

/-- what a client hears of a request that cannot be made; the server hears nothing and stays as it is -/
structure Unmade (net : Transport) (ns : String) (front : Frontend) (a : ApiServer) : Prop where
  apply : ∀ s cause, net.fault? ns (.create (.ofSubmission s ns)) = some cause →
    serverStep net ns front a (.apply s) =
      (.applied (.error (.submission s.id (.stated ("Failed to build request: " ++ cause)))), a)
  status : ∀ job cause, net.fault? ns (.read job) = some cause →
    serverStep net ns front a (.status job) =
      (.observed (.error (.transientStatus job ("Failed to build request: " ++ cause))), a)
  delete : ∀ job cause, net.fault? ns (.delete job) = some cause →
    serverStep net ns front a (.delete job) =
      (.deleted (.error (.transientStatus job ("Failed to build request: " ++ cause))), a)

theorem unmade (net : Transport) (ns : String) (front : Frontend) (a : ApiServer) : Unmade net ns front a where
  apply s cause h := by
    rw [serverStep, Call.apply, Call.send_unmade h]
    rfl
  status job cause h := by
    rw [serverStep, Call.status, Call.send_unmade h]
    rfl
  delete job cause h := by
    rw [serverStep, Call.delete, Call.send_unmade h]
    rfl

/-! ## Agreement -/

/-- **The two clusters agree.** Whatever the transport and however the server takes its requests: from empty, over any
sequence of operations about jobs that requests reach, whatever the submissions, the API server and the cluster in
memory give the same answers: the same outcomes, the same errors with their job and message, the same snapshots. Where
requests reach every label they reach every job that is built. And a request that cannot be made is refused, or told as
a status that is not to be had, and changes nothing. -/
theorem backends_agree (net : Transport) (ns : String) (front : Frontend) :
    (∀ ops : List Op, (∀ o ∈ ops, Reaches net front ns o.job) →
      answers (serverStep net ns front) {} ops = answers localStep { ns } ops) ∧
    ((∀ job, Text.isLabel job = true → Reaches net front ns job) →
      ∀ (d : JobDraft) (s : Submission), d.build = .ok s → Reaches net front ns s.id) ∧
    ∀ a : ApiServer, Unmade net ns front a := by
  refine ⟨fun ops hreach => answers_eq (init_related ns) hreach, fun hlabels d s hbuild => ?_, unmade net ns front⟩
  exact hlabels s.id (jobName_eq_ok ((d.build_eq_ok_iff s).1 hbuild).id).1

/-- the agreement over the life of a job whose name is asked for by another one meanwhile -/
theorem backends_agree_over_a_life :
    (∀ job, Text.isLabel job = true → Reaches .http .literal "team" job) ∧
    ∃ s other, (workers 2).build = .ok s ∧ (workers 3).build = .ok other ∧
      s.id = other.id ∧ s.content ≠ other.content ∧
      let ops : List Op := [.apply s, .apply s, .apply other, .status s.id, .report s.id { conditions := [] },
        .status s.id, .delete s.id, .delete s.id, .apply other]
      (∀ o ∈ ops, Reaches .http .literal "team" o.job) ∧
        answers (serverStep .http "team" .literal) {} ops = answers localStep { ns := "team" } ops := by
  obtain ⟨agree, built, _⟩ := backends_agree .http "team" .literal
  have hlabels : ∀ job, Text.isLabel job = true → Reaches .http .literal "team" job :=
    fun job => http_reaches_of_isLabel (by decide) (by decide)
  obtain ⟨s, hs⟩ := eq_ok_of_isSome (show (workers 2).build.toOption.isSome = true by decide +kernel)
  obtain ⟨other, hother⟩ := eq_ok_of_isSome (show (workers 3).build.toOption.isSome = true by decide +kernel)
  have hids : (workers 2).build.toOption.map (·.id) = (workers 3).build.toOption.map (·.id) := by decide +kernel
  have hcontents : (workers 2).build.toOption.map (·.content) ≠ (workers 3).build.toOption.map (·.content) := by
    decide +kernel
  rw [hs, hother] at hids hcontents
  have hid : s.id = other.id := Option.some.inj hids
  refine ⟨hlabels, s, other, hs, hother, hid, fun h => hcontents (congrArg some h), ?_⟩
  intro ops
  have hjob : ∀ o ∈ ops, o.job = s.id := by simp [ops, Op.job, hid]
  have hreach : ∀ o ∈ ops, Reaches .http .literal "team" o.job := by
    intro o ho
    rw [hjob o ho]
    exact built hlabels (workers 2) s hs
  exact ⟨hreach, agree ops hreach⟩

/-- **Where the two differ.** In a namespace with a blank no request can be made, while the cluster in memory serves it
like any other. -/
theorem backends_differ :
    let ops := fun s : Submission => [Op.apply s, .status s.id]
    let cause := "Failed to build request: failed to build request: invalid uri character"
    (workers 2).build.toOption.map (fun s => answers (serverStep .http "team a" .literal) {} (ops s)) =
      some [.applied (.error (.submission "exec1-n0-0-67b4a902" (.stated cause))),
        .observed (.error (.transientStatus "exec1-n0-0-67b4a902" cause))] ∧
    (workers 2).build.toOption.map (fun s => answers localStep { ns := "team a" } (ops s)) =
      some [.applied (.ok .created), .observed (.ok (some (.ofAccepted "exec1-n0-0-67b4a902")))] := by
  decide +kernel

end TrainingJobs.Backends
