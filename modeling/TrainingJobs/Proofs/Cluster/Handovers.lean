/-
Clients that hand over jobs to a cluster in memory, step by step. A call counts itself, reads the delay, waits for it
(and may be given up meanwhile), takes the refusal that has been ordered, and enters its job under its name. Between
any two of these steps any other client may take one of its own, put in a status, delete a job, order a refusal, or
hide and show the status of a job.

- `LocalCluster.Answer`: the four answers a call can get, each with the cluster that it leaves.
- `advance_answer`: a call goes on and changes nothing, or it gets one of them.
- `step_change`: all that one step can do to the jobs, and the event it gives.
- `apply_alone`: a call that nobody interrupts does what `LocalCluster.apply` does.
- `handed_over_at_most_once`: on every run, jobs stand under their own names with their own manifests; between two
  deletions of a name at most one job is created under it and none is replaced; a call succeeds only with a job of its
  content hash in place; and a name held with another content hash is refused.
-/
import Mathlib.Tactic
import TrainingJobs.Cluster.Local
import TrainingJobs.Cluster.Submit

namespace TrainingJobs

namespace LocalCluster

/-! ## Answers to a call -/

/-- an answer to a job that is handed over, and the cluster that it leaves -/
inductive Answer (c : LocalCluster) (s : Submission) : Except Error ApplyOutcome → LocalCluster → Prop where
  | rejected {reason : String} (pending : c.rejection = some reason) :
      Answer c s (.error (.submission s.id (.stated reason))) { c with rejection := none }
  | refused {held : StoredJob} (taken : c.jobs.find? s.id = some held)
      (other : held.submission.contentHash ≠ s.contentHash) :
      Answer c s (.error (.submission s.id (.takenByAnother held.submission.contentHash s.contentHash))) c
  | confirmed {held : StoredJob} (taken : c.jobs.find? s.id = some held)
      (same : held.submission.contentHash = s.contentHash) : Answer c s (.ok .alreadyExists) c
  | created (free : c.jobs.find? s.id = none) :
      Answer c s (.ok .created)
        { c with jobs := c.jobs.insert s.id { submission := s, manifest := .ofSubmission s c.ns } }

theorem enter_answer (c : LocalCluster) (s : Submission) : Answer c s (c.enter s).1 (c.enter s).2 := by
  unfold enter
  split
  · rename_i held taken
    by_cases same : held.submission.contentHash = s.contentHash
    · simp only [reconcile, same, if_true]
      exact .confirmed taken same
    · simp only [reconcile, same, if_false]
      exact .refused taken same
  · rename_i free
    exact .created free

theorem takeIn_answer (c : LocalCluster) (s : Submission) : Answer c s (c.takeIn s).1 (c.takeIn s).2 := by
  unfold takeIn
  split
  · rename_i reason pending
    exact .rejected pending
  · exact c.enter_answer s

end LocalCluster

namespace Handovers

/-! ## Model -/

/-- how far the handing over of a job has come -/
inductive Stage where
  | counted
  | waiting
  /-- the delay is over -/
  | due
  /-- no refusal was pending -/
  | clear
  | answered (result : Except Error ApplyOutcome)
  /-- given up while waiting -/
  | cut
deriving DecidableEq, Repr

structure Handover where
  submission : Submission
  stage : Stage
deriving DecidableEq, Repr

structure St where
  cluster : LocalCluster
  /-- in the order in which they began -/
  calls : List Handover := []
deriving DecidableEq, Repr

/-- what others can observe of a step -/
inductive Event where
  | answered (s : Submission) (result : Except Error ApplyOutcome)
  | deleted (job : String)
deriving DecidableEq, Repr

inductive Op where
  | begin (s : Submission)
  /-- the next step of a call -/
  | advance (k : ℕ)
  | cut (k : ℕ)
  | setStatus (snapshot : Snapshot)
  | delete (job : String)
  | rejectNext (reason : String)
  | markUnavailable (job : String)
  | markAvailable (job : String)
  | setApplyDelay (delay : Option UInt64)
deriving DecidableEq, Repr

/-- the cluster and the call after the next step of the call, unless the call is over -/
def Handover.advance (c : LocalCluster) (h : Handover) : Option (LocalCluster × Stage) :=
  match h.stage with
  | .counted => some (c, if c.applyDelay.isSome then .waiting else .due)
  | .waiting => some (c, .due)
  | .due =>
    match c.rejection with
    | none => some (c, .clear)
    | some reason => some (c.takeRejection, .answered (.error (.submission h.submission.id (.stated reason))))
  | .clear => some ((c.enter h.submission).2, .answered (c.enter h.submission).1)
  | .answered _ | .cut => none

/-- a call is given up only while it waits -/
def Handover.giveUp (h : Handover) : Handover :=
  match h.stage with
  | .waiting => { h with stage := .cut }
  | _ => h

def Stage.event? (s : Submission) : Stage → Option Event
  | .answered result => some (.answered s result)
  | _ => none

/-- the call is answered or given up -/
def Stage.isOver : Stage → Bool
  | .answered _ | .cut => true
  | _ => false

theorem event?_of_not_over {s : Submission} {stage : Stage} (h : stage.isOver = false) : stage.event? s = none := by
  cases stage <;> first | rfl | cases h

def step (s : St) : Op → St × Option Event
  | .begin sub => (⟨s.cluster.countCall, s.calls ++ [⟨sub, .counted⟩]⟩, none)
  | .advance k =>
    match s.calls[k]? with
    | none => (s, none)
    | some h =>
      match h.advance s.cluster with
      | none => (s, none)
      | some (c, stage) => (⟨c, s.calls.set k { h with stage }⟩, stage.event? h.submission)
  | .cut k => ({ s with calls := s.calls.modify k Handover.giveUp }, none)
  | .setStatus snapshot =>
    match s.cluster.setStatus snapshot with
    | .ok c => ({ s with cluster := c }, none)
    | .error _ => (s, none)
  | .delete job =>
    match s.cluster.delete job with
    | .ok c => ({ s with cluster := c }, some (.deleted job))
    | .error _ => (s, none)
  | .rejectNext reason => ({ s with cluster := s.cluster.rejectNext reason }, none)
  | .markUnavailable job => ({ s with cluster := s.cluster.markUnavailable job }, none)
  | .markAvailable job => ({ s with cluster := s.cluster.markAvailable job }, none)
  | .setApplyDelay delay => ({ s with cluster := s.cluster.setApplyDelay delay }, none)

def init (ns : String) : St := ⟨{ ns }, []⟩

def run (s : St) (ops : List Op) : St := ops.foldl (fun s o => (step s o).1) s

/-- what can be observed of a run, in order -/
def events (s : St) : List Op → List Event
  | [] => []
  | o :: ops => (step s o).2.toList ++ events (step s o).1 ops

theorem run_cons (s : St) (o : Op) (ops : List Op) : run s (o :: ops) = run (step s o).1 ops := rfl

theorem run_append (s : St) (a b : List Op) : run s (a ++ b) = run (run s a) b := by
  simp [run, List.foldl_append]

/-! ## What one step can do -/

/-- the jobs of a cluster after a step, and the event of the step -/
inductive Change (c : LocalCluster) : Option Event → Dict StoredJob → Prop where
  | idle : Change c none c.jobs
  | reported {snapshot : Snapshot} {held : StoredJob} (taken : c.jobs.find? snapshot.job = some held) :
      Change c none (c.jobs.insert snapshot.job { held with status := some snapshot })
  | deleted {job : String} (taken : c.jobs.contains job = true) :
      Change c (some (.deleted job)) (c.jobs.erase job)
  | created {s : Submission} (free : c.jobs.find? s.id = none) :
      Change c (some (.answered s (.ok .created)))
        (c.jobs.insert s.id { submission := s, manifest := .ofSubmission s c.ns })
  | confirmed {s : Submission} {held : StoredJob} (taken : c.jobs.find? s.id = some held)
      (same : held.submission.contentHash = s.contentHash) :
      Change c (some (.answered s (.ok .alreadyExists))) c.jobs
  | refused (s : Submission) (cause : Refusal) :
      Change c (some (.answered s (.error (.submission s.id cause)))) c.jobs

theorem Change.of_answer {c d : LocalCluster} {s : Submission} {result : Except Error ApplyOutcome}
    (h : c.Answer s result d) : Change c (some (.answered s result)) d.jobs ∧ d.ns = c.ns := by
  cases h with
  | rejected => exact ⟨.refused s _, rfl⟩
  | refused => exact ⟨.refused s _, rfl⟩
  | confirmed taken same => exact ⟨.confirmed taken same, rfl⟩
  | created free => exact ⟨.created free, rfl⟩

/-- A call goes on and leaves the cluster as it is, or it is answered. -/
theorem advance_answer {c d : LocalCluster} {h : Handover} {stage : Stage} (ha : h.advance c = some (d, stage)) :
    (d = c ∧ stage.isOver = false) ∨ ∃ result, stage = .answered result ∧ c.Answer h.submission result d := by
  unfold Handover.advance at ha
  split at ha
  · obtain ⟨rfl, rfl⟩ := by simpa using ha
    refine .inl ⟨rfl, ?_⟩
    split <;> rfl
  · obtain ⟨rfl, rfl⟩ := by simpa using ha
    exact .inl ⟨rfl, rfl⟩
  · split at ha
    · obtain ⟨rfl, rfl⟩ := by simpa using ha
      exact .inl ⟨rfl, rfl⟩
    · rename_i pending
      obtain ⟨rfl, rfl⟩ := by simpa using ha
      exact .inr ⟨_, rfl, .rejected pending⟩
  · obtain ⟨rfl, rfl⟩ := by simpa using ha
    exact .inr ⟨_, rfl, c.enter_answer h.submission⟩
  · cases ha
  · cases ha

theorem advance_change {c d : LocalCluster} {h : Handover} {stage : Stage} (ha : h.advance c = some (d, stage)) :
    Change c (stage.event? h.submission) d.jobs ∧ d.ns = c.ns := by
  rcases advance_answer ha with ⟨rfl, hgoes⟩ | ⟨result, rfl, hanswer⟩
  · rw [event?_of_not_over hgoes]
    exact ⟨.idle, rfl⟩
  · exact Change.of_answer hanswer

/-- **All that a step can do.** A step leaves the jobs as they are, puts a status into one, deletes one, or enters one
under a free name; a call that is answered created the last, found its own job, or was refused. -/
theorem step_change (s : St) (o : Op) :
    Change s.cluster (step s o).2 (step s o).1.cluster.jobs ∧ (step s o).1.cluster.ns = s.cluster.ns := by
  cases o with
  | advance k =>
    simp only [step]
    split
    · exact ⟨.idle, rfl⟩
    · rename_i h _
      split
      · exact ⟨.idle, rfl⟩
      · rename_i ha
        exact advance_change ha
  | setStatus snapshot =>
    simp only [step, LocalCluster.setStatus]
    cases taken : s.cluster.jobs.find? snapshot.job with
    | none => exact ⟨.idle, rfl⟩
    | some held => exact ⟨.reported taken, rfl⟩
  | delete job =>
    simp only [step, LocalCluster.delete]
    by_cases taken : s.cluster.jobs.contains job = true
    · rw [if_pos taken]
      exact ⟨.deleted taken, rfl⟩
    · rw [if_neg taken]
      exact ⟨.idle, rfl⟩
  | _ => exact ⟨.idle, rfl⟩

/-! ## Jobs under their names -/

/-- each job stands under its own name, with the manifest it has in the namespace -/
def Filed (ns : String) (jobs : Dict StoredJob) : Prop :=
  ∀ name job, jobs.find? name = some job →
    job.submission.id = name ∧ job.manifest = .ofSubmission job.submission ns

theorem Change.filed {c : LocalCluster} {e : Option Event} {jobs : Dict StoredJob} (h : Change c e jobs)
    (hc : Filed c.ns c.jobs) : Filed c.ns jobs := by
  intro name job hjob
  cases h with
  | idle => exact hc name job hjob
  | @reported snapshot held taken =>
    rw [Dict.find?_insert] at hjob
    split_ifs at hjob with hname
    · cases hjob
      exact hc name held (hname ▸ taken)
    · exact hc name job hjob
  | deleted =>
    rw [Dict.find?_erase] at hjob
    split_ifs at hjob
    exact hc name job hjob
  | created =>
    rw [Dict.find?_insert] at hjob
    split_ifs at hjob with hname
    · cases hjob
      exact ⟨hname, rfl⟩
    · exact hc name job hjob
  | confirmed => exact hc name job hjob
  | refused => exact hc name job hjob

theorem run_filed (ns : String) (ops : List Op) : Filed ns (run (init ns) ops).cluster.jobs := by
  have hrun : ∀ s : St, Filed s.cluster.ns s.cluster.jobs → Filed s.cluster.ns (run s ops).cluster.jobs := by
    induction ops with
    | nil => exact fun s hs => hs
    | cons o ops ih =>
      intro s hs
      obtain ⟨hchange, hns⟩ := step_change s o
      rw [run_cons, ← hns]
      exact ih _ (hns ▸ hchange.filed hs)
  exact hrun (init ns) fun name job hjob => by cases hjob

/-! ## Between two deletions of a name -/

/-- the event is that a job is created under the name -/
def Event.creates (name : String) : Event → Bool
  | .answered s (.ok .created) => s.id == name
  | _ => false

/-- the same job, whatever its status -/
def SameJob (a b : StoredJob) : Prop := b.submission = a.submission ∧ b.manifest = a.manifest

theorem SameJob.trans {a b c : StoredJob} (h : SameJob a b) (h' : SameJob b c) : SameJob a c :=
  ⟨h'.1.trans h.1, h'.2.trans h.2⟩

/-- a job stays what it is until it is deleted, and meanwhile none is created under its name -/
theorem Change.keeps {c : LocalCluster} {e : Option Event} {jobs : Dict StoredJob} (h : Change c e jobs)
    {name : String} {job : StoredJob} (hjob : c.jobs.find? name = some job) (hdel : e ≠ some (.deleted name)) :
    (∃ job', jobs.find? name = some job' ∧ SameJob job job') ∧ e.toList.countP (Event.creates name) = 0 := by
  cases h with
  | idle => exact ⟨⟨job, hjob, rfl, rfl⟩, rfl⟩
  | @reported snapshot held taken =>
    refine ⟨?_, rfl⟩
    rw [Dict.find?_insert]
    split_ifs with hname
    · have hheld : held = job := by simpa [← hname, taken] using hjob
      exact ⟨_, rfl, by rw [hheld], by rw [hheld]⟩
    · exact ⟨job, hjob, rfl, rfl⟩
  | @deleted other taken =>
    have hother : other ≠ name := fun hname => hdel (by rw [hname])
    exact ⟨⟨job, by rw [Dict.find?_erase, if_neg hother, hjob], rfl, rfl⟩, rfl⟩
  | @created s free =>
    have hname : s.id ≠ name := by
      intro hname
      rw [hname, hjob] at free
      cases free
    refine ⟨⟨job, by rw [Dict.find?_insert, if_neg hname, hjob], rfl, rfl⟩, ?_⟩
    simp [Event.creates, hname]
  | confirmed => exact ⟨⟨job, hjob, rfl, rfl⟩, rfl⟩
  | refused => exact ⟨⟨job, hjob, rfl, rfl⟩, rfl⟩

/-- the creation of a job puts it under its name -/
theorem Change.creates_iff {c : LocalCluster} {e : Option Event} {jobs : Dict StoredJob} (h : Change c e jobs)
    (name : String) : e.toList.countP (Event.creates name) = 0 ∨
      e.toList.countP (Event.creates name) = 1 ∧ ∃ job, jobs.find? name = some job := by
  cases h with
  | @created s free =>
    by_cases hname : s.id = name
    · right
      refine ⟨by simp [Event.creates, hname], { submission := s, manifest := .ofSubmission s c.ns }, ?_⟩
      rw [Dict.find?_insert, if_pos hname]
    · left
      simp [Event.creates, hname]
  | _ => exact .inl rfl

theorem run_keeps {s : St} {ops : List Op} {name : String} {job : StoredJob}
    (hjob : s.cluster.jobs.find? name = some job) (hdel : Event.deleted name ∉ events s ops) :
    (∃ job', (run s ops).cluster.jobs.find? name = some job' ∧ SameJob job job') ∧
      (events s ops).countP (Event.creates name) = 0 := by
  induction ops generalizing s job with
  | nil => exact ⟨⟨job, hjob, rfl, rfl⟩, rfl⟩
  | cons o ops ih =>
    simp only [events, List.mem_append, not_or, Option.mem_toList] at hdel
    obtain ⟨⟨job', hjob', hsame⟩, hcount⟩ := (step_change s o).1.keeps hjob hdel.1
    obtain ⟨⟨job'', hjob'', hsame'⟩, hcount'⟩ := ih hjob' hdel.2
    refine ⟨⟨job'', hjob'', hsame.trans hsame'⟩, ?_⟩
    rw [events, List.countP_append, hcount, hcount']

theorem run_creates_le_one {s : St} {ops : List Op} {name : String} (hdel : Event.deleted name ∉ events s ops) :
    (events s ops).countP (Event.creates name) ≤ 1 := by
  induction ops generalizing s with
  | nil => exact Nat.zero_le 1
  | cons o ops ih =>
    simp only [events, List.mem_append, not_or, Option.mem_toList] at hdel
    rw [events, List.countP_append]
    rcases (step_change s o).1.creates_iff name with hzero | ⟨hone, job, hjob⟩
    · rw [hzero, Nat.zero_add]
      exact ih hdel.2
    · -- from here on the name is held
      rw [hone, (run_keeps hjob hdel.2).2]

/-! ## Answers -/

theorem Change.holds {c : LocalCluster} {s : Submission} {outcome : ApplyOutcome} {jobs : Dict StoredJob}
    (h : Change c (some (.answered s (.ok outcome))) jobs) :
    ∃ job, jobs.find? s.id = some job ∧ job.submission.contentHash = s.contentHash := by
  cases h with
  | created =>
    refine ⟨{ submission := s, manifest := .ofSubmission s c.ns }, ?_, rfl⟩
    rw [Dict.find?_insert, if_pos rfl]
  | @confirmed _ held taken same => exact ⟨held, taken, same⟩

theorem Change.refuses {c : LocalCluster} {s : Submission} {result : Except Error ApplyOutcome} {jobs : Dict StoredJob}
    (h : Change c (some (.answered s result)) jobs) {job : StoredJob} (hjob : c.jobs.find? s.id = some job)
    (hother : job.submission.contentHash ≠ s.contentHash) : ∃ cause, result = .error (.submission s.id cause) := by
  cases h with
  | created free =>
    rw [hjob] at free
    cases free
  | confirmed taken same =>
    rw [hjob] at taken
    cases taken
    exact absurd same hother
  | refused _ cause => exact ⟨cause, rfl⟩

theorem ofApply_ok {s : Submission} {result : Except Error ApplyOutcome} {o : SubmitOutcome}
    (h : SubmitOutcome.ofApply s result = .ok o) : ∃ outcome, result = .ok outcome := by
  cases result with
  | error e => cases h
  | ok outcome => exact ⟨outcome, rfl⟩

/-- A call that nobody interrupts does what `LocalCluster.apply` does. -/
theorem apply_alone (c : LocalCluster) (s : Submission) :
    run ⟨c, []⟩ (.begin s :: List.replicate 4 (.advance 0)) = ⟨(c.apply s).2, [⟨s, .answered (c.apply s).1⟩]⟩ := by
  obtain ⟨ns, jobs, calls, rejection, unavailable, applyDelay⟩ := c
  cases applyDelay with
  | none => cases rejection <;> rfl
  | some => cases rejection <;> rfl

/-- **Jobs are handed over at most once.** On every run from an empty cluster, however the steps of the calls interleave
with each other and with the other operations: jobs stand under their own names with their own manifests; in a stretch
without a deletion of a name at most one job is created under it, and a job that is there stays what it is; the step
that answers a call or a submission with success leaves a job of its content hash under its name; and it never succeeds
while the name is held with another content hash. -/
theorem handed_over_at_most_once (ns : String) (before between : List Op) (o : Op) :
    let s := run (init ns) before
    let t := run s between
    Filed ns t.cluster.jobs ∧
    (∀ name, Event.deleted name ∉ events s between →
      (events s between).countP (Event.creates name) ≤ 1 ∧
      ∀ job, s.cluster.jobs.find? name = some job → ∃ job', t.cluster.jobs.find? name = some job' ∧ SameJob job job') ∧
    (∀ sub result, (step t o).2 = some (.answered sub result) →
      ((∃ outcome, result = .ok outcome) ∨ ∃ outcome, SubmitOutcome.ofApply sub result = .ok outcome) →
      ∃ job, (step t o).1.cluster.jobs.find? sub.id = some job ∧ job.submission.contentHash = sub.contentHash) ∧
    ∀ sub result job, (step t o).2 = some (.answered sub result) → t.cluster.jobs.find? sub.id = some job →
      job.submission.contentHash ≠ sub.contentHash → ∃ cause, result = .error (.submission sub.id cause) := by
  intro s t
  refine ⟨?_, ?_, ?_, ?_⟩
  · have hrun : t = run (init ns) (before ++ between) := by rw [run_append]
    rw [hrun]
    exact run_filed ns (before ++ between)
  · intro name hdel
    exact ⟨run_creates_le_one hdel, fun job hjob => (run_keeps hjob hdel).1⟩
  · intro sub result hanswer hok
    have hresult : ∃ outcome, result = .ok outcome := hok.elim id fun ⟨_, h⟩ => ofApply_ok h
    obtain ⟨outcome, rfl⟩ := hresult
    have hchange := (step_change t o).1
    rw [hanswer] at hchange
    exact hchange.holds
  · intro sub result job hanswer hjob hother
    have hchange := (step_change t o).1
    rw [hanswer] at hchange
    exact hchange.refuses hjob hother

end Handovers

end TrainingJobs
