/-
What a cluster in memory tells of a job, from what has happened to it. The history of a cluster has an entry for each
job that was created and for each request to put in a status, to delete a job, or to hide and show one, granted or not.
It decides every answer about the status of a job, and of the history only what concerns that job counts.

- `look_of_answer`: what an answer to a call does to what is told of a job;
- `look_perform`, `look_step`: what a request does to it, and one step among those of other clients;
- `look_run`, `Handovers.look_run`: what a whole history comes to;
- `status_foldl_eq_none_iff`: when a job is not there at its end;
- `status_tells_history`: the answer at the end of every history, whoever else had a hand in it.
-/
import TrainingJobs.Proofs.Cluster.Failures

namespace TrainingJobs

namespace History

/-! ## Model -/

inductive Entry where
  | created (job : String)
  | status (snapshot : Snapshot)
  | deletion (job : String)
  | hiding (job : String)
  | showing (job : String)
deriving DecidableEq, Repr

/-- the job that an entry is about -/
def Entry.job : Entry → String
  | .status snapshot => snapshot.job
  | .created job | .deletion job | .hiding job | .showing job => job

/-- the entry hides the job or shows it -/
def Entry.marks (job : String) : Entry → Bool
  | .hiding other | .showing other => other == job
  | _ => false

/-- the status that is put in for the job -/
def Entry.statusOf? (job : String) : Entry → Option Snapshot
  | .status snapshot => if snapshot.job = job then some snapshot else none
  | _ => none

/-- what there is to tell of a job -/
structure Sight where
  hidden : Bool
  /-- none if there is no such job, and none in it if no status has been put in -/
  status : Option (Option Snapshot)
deriving DecidableEq, Repr

def Sight.answer (v : Sight) (job : String) : Except Error (Option Snapshot) :=
  if v.hidden then .error (.transientStatus job "status endpoint unavailable")
  else .ok (v.status.map fun status => status.getD (.ofAccepted job))

/-- the same after one more entry -/
def Sight.after (job : String) (v : Sight) (e : Entry) : Sight :=
  if e.job = job then
    match e with
    | .created _ => { v with status := some none }
    | .status snapshot => { v with status := v.status.map fun _ => some snapshot }
    | .deletion _ => { v with status := none }
    | .hiding _ => { v with hidden := true }
    | .showing _ => { v with hidden := false }
  else v

def look (c : LocalCluster) (job : String) : Sight where
  hidden := c.unavailable.contains job
  status := (c.jobs.find? job).map (·.status)

inductive Request where
  | apply (s : Submission)
  | setStatus (snapshot : Snapshot)
  | delete (job : String)
  | markUnavailable (job : String)
  | markAvailable (job : String)
deriving DecidableEq, Repr

def Request.job : Request → String
  | .apply s => s.id
  | .setStatus snapshot => snapshot.job
  | .delete job | .markUnavailable job | .markAvailable job => job

/-- the cluster after a change that may be refused -/
def changed (c : LocalCluster) : Except Error LocalCluster → LocalCluster
  | .ok d => d
  | .error _ => c

def perform (c : LocalCluster) : Request → LocalCluster
  | .apply s => (c.apply s).2
  | .setStatus snapshot => changed c (c.setStatus snapshot)
  | .delete job => changed c (c.delete job)
  | .markUnavailable job => c.markUnavailable job
  | .markAvailable job => c.markAvailable job

/-- what the history says of a request -/
def recorded? (c : LocalCluster) : Request → Option Entry
  | .apply s => if (c.apply s).1 = .ok .created then some (.created s.id) else none
  | .setStatus snapshot => some (.status snapshot)
  | .delete job => some (.deletion job)
  | .markUnavailable job => some (.hiding job)
  | .markAvailable job => some (.showing job)

def run (c : LocalCluster) (requests : List Request) : LocalCluster := requests.foldl perform c

def history (c : LocalCluster) : List Request → List Entry
  | [] => []
  | r :: requests => (recorded? c r).toList ++ history (perform c r) requests

/-! ## One request -/

theorem status_eq (c : LocalCluster) (job : String) : c.status job = (look c job).answer job := by
  simp [LocalCluster.status, Sight.answer, look, Function.comp_def]

theorem after_of_ne {job : String} {e : Entry} (h : e.job ≠ job) (v : Sight) : v.after job e = v := if_neg h

/-- Of the answers to a call, one says that the job is created, and no other shows in any job. -/
theorem look_of_answer {c d : LocalCluster} {s : Submission} {result : Except Error ApplyOutcome}
    (h : c.Answer s result d) (job : String) :
    look d job = (if result = .ok .created then some (Entry.created s.id) else none).toList.foldl (Sight.after job)
      (look c job) := by
  cases h with
  | rejected => rfl
  | refused => rfl
  | confirmed => rfl
  | created free =>
    by_cases hname : s.id = job
    · simp [look, Sight.after, Entry.job, Dict.find?_insert, hname]
    · simp [look, Sight.after, Entry.job, Dict.find?_insert, hname]

theorem look_setStatus (c : LocalCluster) (snapshot : Snapshot) (job : String) :
    look (changed c (c.setStatus snapshot)) job = (look c job).after job (.status snapshot) := by
  by_cases hname : snapshot.job = job
  · subst hname
    cases hjob : c.jobs.find? snapshot.job with
    | none => simp [LocalCluster.setStatus, changed, hjob, look, Sight.after, Entry.job]
    | some held => simp [LocalCluster.setStatus, changed, hjob, look, Sight.after, Entry.job, Dict.find?_insert]
  · rw [after_of_ne (e := .status snapshot) hname]
    cases hjob : c.jobs.find? snapshot.job with
    | none => simp [LocalCluster.setStatus, changed, hjob]
    | some held => simp [LocalCluster.setStatus, changed, hjob, look, Dict.find?_insert, hname]

theorem look_delete (c : LocalCluster) (name job : String) :
    look (changed c (c.delete name)) job = (look c job).after job (.deletion name) := by
  by_cases hname : name = job
  · subst hname
    cases hjob : c.jobs.find? name with
    | none => simp [LocalCluster.delete, Dict.contains, changed, hjob, look, Sight.after, Entry.job]
    | some held =>
      simp [LocalCluster.delete, Dict.contains, changed, hjob, look, Sight.after, Entry.job, Dict.find?_erase]
  · rw [after_of_ne (e := .deletion name) hname]
    cases hjob : c.jobs.find? name with
    | none => simp [LocalCluster.delete, Dict.contains, changed, hjob]
    | some held => simp [LocalCluster.delete, Dict.contains, changed, hjob, look, Dict.find?_erase, hname]

theorem look_markUnavailable (c : LocalCluster) (name job : String) :
    look (c.markUnavailable name) job = (look c job).after job (.hiding name) := by
  by_cases hname : name = job <;>
    simp [LocalCluster.markUnavailable, look, Sight.after, Entry.job, Dict.contains, Dict.find?_insert, hname]

theorem look_markAvailable (c : LocalCluster) (name job : String) :
    look (c.markAvailable name) job = (look c job).after job (.showing name) := by
  by_cases hname : name = job <;>
    simp [LocalCluster.markAvailable, look, Sight.after, Entry.job, Dict.contains, Dict.find?_erase, hname]

/-- **A request shows as its entry says.** -/
theorem look_perform (c : LocalCluster) (r : Request) (job : String) :
    look (perform c r) job = (recorded? c r).toList.foldl (Sight.after job) (look c job) := by
  cases r with
  | apply s => exact look_of_answer (c.countCall.takeIn_answer s) job
  | setStatus snapshot => exact look_setStatus c snapshot job
  | delete name => exact look_delete c name job
  | markUnavailable name => exact look_markUnavailable c name job
  | markAvailable name => exact look_markAvailable c name job

theorem look_run (c : LocalCluster) (requests : List Request) (job : String) :
    look (run c requests) job = (history c requests).foldl (Sight.after job) (look c job) := by
  induction requests generalizing c with
  | nil => rfl
  | cons r requests ih =>
    rw [history, List.foldl_append, ← look_perform]
    exact ih (perform c r)

/-! ## Requests about other jobs -/

theorem recorded?_job {c : LocalCluster} {r : Request} {e : Entry} (h : recorded? c r = some e) : e.job = r.job := by
  cases r with
  | apply s =>
    simp only [recorded?] at h
    split_ifs at h
    cases h
    rfl
  | _ => cases h; rfl

/-- a cluster that has no refusal to give creates just the jobs that it does not hold -/
theorem created_iff {c : LocalCluster} (h : c.rejection = none) (s : Submission) :
    (c.apply s).1 = .ok .created ↔ (look c s.id).status = none := by
  simp only [LocalCluster.apply, LocalCluster.takeIn, LocalCluster.countCall, h, LocalCluster.enter, look]
  cases hjob : c.jobs.find? s.id with
  | none => simp
  | some held => simp [reconcile_eq_ok_iff]

theorem rejection_of_answer {c d : LocalCluster} {s : Submission} {result : Except Error ApplyOutcome}
    (h : c.Answer s result d) (hnone : c.rejection = none) : d.rejection = none := by
  cases h with
  | rejected => rfl
  | _ => exact hnone

theorem perform_rejection {c : LocalCluster} (h : c.rejection = none) (r : Request) :
    (perform c r).rejection = none := by
  cases r with
  | apply s => exact rejection_of_answer (c.countCall.takeIn_answer s) h
  | setStatus snapshot =>
    simp only [perform, LocalCluster.setStatus]
    cases c.jobs.find? snapshot.job <;> exact h
  | delete job =>
    simp only [perform, LocalCluster.delete]
    split_ifs <;> exact h
  | _ => exact h

/-- what a request does can be told from its own job, unless a refusal has been ordered -/
theorem recorded?_congr {c d : LocalCluster} (hc : c.rejection = none) (hd : d.rejection = none) {r : Request}
    (h : look c r.job = look d r.job) : recorded? c r = recorded? d r := by
  cases r with
  | apply s =>
    have hcreated : (c.apply s).1 = .ok .created ↔ (d.apply s).1 = .ok .created := by
      rw [created_iff hc, created_iff hd, show look c s.id = look d s.id from h]
    simp only [recorded?, hcreated]
  | _ => rfl

theorem look_run_filter {c d : LocalCluster} (hc : c.rejection = none) (hd : d.rejection = none) {job : String}
    (h : look c job = look d job) (requests : List Request) :
    look (run c requests) job = look (run d (requests.filter fun r => r.job == job)) job := by
  induction requests generalizing c d with
  | nil => exact h
  | cons r requests ih =>
    by_cases hjob : r.job = job
    · subst hjob
      have hstep : look (perform c r) r.job = look (perform d r) r.job := by
        rw [look_perform, look_perform, recorded?_congr hc hd h, h]
      rw [List.filter_cons_of_pos (by simp)]
      exact ih (perform_rejection hc r) (perform_rejection hd r) hstep
    · have hkept : look (perform c r) job = look c job := by
        rw [look_perform]
        cases hentry : recorded? c r with
        | none => rfl
        | some e => exact after_of_ne (by rwa [recorded?_job hentry]) _
      rw [List.filter_cons_of_neg (by simpa using hjob)]
      exact ih (perform_rejection hc r) hd (hkept.trans h)

/-! ## Whole histories -/

/-- the last mark of the job hides it -/
def IsHidden (es : List Entry) (job : String) : Prop := (es.filter (Entry.marks job)).getLast? = some (.hiding job)

instance (es : List Entry) (job : String) : Decidable (IsHidden es job) := inferInstanceAs (Decidable (_ = _))

/-- the last status that is put in for the job -/
def lastStatus? (es : List Entry) (job : String) : Option Snapshot := (es.filterMap (Entry.statusOf? job)).getLast?

variable {job : String} {es : List Entry} {v : Sight}

theorem hidden_after (e : Entry) :
    (v.after job e).hidden = true ↔ if e.marks job then e = .hiding job else v.hidden = true := by
  by_cases hjob : e.job = job
  · cases e <;> simp_all [Sight.after, Entry.marks, Entry.job]
  · rw [after_of_ne hjob]
    cases e <;> simp_all [Entry.marks, Entry.job]

theorem hidden_foldl (hv : v.hidden = false) : (es.foldl (Sight.after job) v).hidden = true ↔ IsHidden es job := by
  induction es using List.reverseRecOn with
  | nil => simp [IsHidden, hv]
  | append_singleton es e ih =>
    rw [List.foldl_append, List.foldl_cons, List.foldl_nil, hidden_after, ih, IsHidden, IsHidden, List.filter_append]
    by_cases hmark : e.marks job = true <;> simp [hmark]

theorem status_after {e : Entry} (hcreated : e ≠ .created job) (hdeletion : e ≠ .deletion job) :
    (v.after job e).status = v.status.map fun old => (e.statusOf? job).or old := by
  by_cases hjob : e.job = job
  · cases e <;> simp_all [Sight.after, Entry.statusOf?, Entry.job]
  · rw [after_of_ne hjob]
    cases e <;> simp_all [Entry.statusOf?, Entry.job]

/-- as long as a job is neither created nor deleted, it has the last status that has been put in -/
theorem status_foldl (hcreated : .created job ∉ es) (hdeletion : .deletion job ∉ es) :
    (es.foldl (Sight.after job) v).status = v.status.map fun old => (lastStatus? es job).or old := by
  induction es using List.reverseRecOn with
  | nil => simp [lastStatus?]
  | append_singleton es e ih =>
    simp only [List.mem_append, List.mem_singleton, not_or] at hcreated hdeletion
    rw [List.foldl_append, List.foldl_cons, List.foldl_nil, status_after (Ne.symm hcreated.2) (Ne.symm hdeletion.2),
      ih hcreated.1 hdeletion.1, lastStatus?, lastStatus?, List.filterMap_append]
    cases he : e.statusOf? job <;> simp [he, Function.comp_def]

/-- a job that is not there stays away until it is created -/
theorem status_foldl_eq_none (hcreated : .created job ∉ es) (hv : v.status = none) :
    (es.foldl (Sight.after job) v).status = none := by
  induction es generalizing v with
  | nil => exact hv
  | cons e es ih =>
    obtain ⟨he, hes⟩ := List.ne_and_not_mem_of_not_mem_cons hcreated
    refine ih hes ?_
    by_cases hdeletion : e = .deletion job
    · simp [hdeletion, Sight.after, Entry.job]
    · rw [status_after (Ne.symm he) hdeletion, hv]
      rfl

theorem status_foldl_of_created {before after : List Entry} (hcreated : .created job ∉ after)
    (hdeletion : .deletion job ∉ after) :
    ((before ++ .created job :: after).foldl (Sight.after job) v).status = some (lastStatus? after job) := by
  rw [List.foldl_append, List.foldl_cons, status_foldl hcreated hdeletion]
  simp [Sight.after, Entry.job]

theorem exists_last {e : Entry} (h : e ∈ es) : ∃ before after, es = before ++ e :: after ∧ e ∉ after := by
  obtain ⟨before, after, hsplit, hnew⟩ := List.eq_append_cons_of_mem (List.mem_reverse.2 h)
  refine ⟨after.reverse, before.reverse, ?_, by simpa using hnew⟩
  simpa using congrArg List.reverse hsplit

/-- the job was never created, or has been deleted since it was created last -/
def IsGone (es : List Entry) (job : String) : Prop :=
  .created job ∉ es ∨
    ∃ before after, es = before ++ .created job :: after ∧ .created job ∉ after ∧ .deletion job ∈ after

theorem created_last_of_not_gone (h : ¬ IsGone es job) : ∃ before after, es = before ++ .created job :: after ∧
    .created job ∉ after ∧ .deletion job ∉ after := by
  obtain ⟨hcreated, hkept⟩ := not_or.1 h
  obtain ⟨before, after, hsplit, hlast⟩ := exists_last (not_not.1 hcreated)
  exact ⟨before, after, hsplit, hlast, fun hdeletion => hkept ⟨before, after, hsplit, hlast, hdeletion⟩⟩

theorem status_foldl_eq_none_iff (hv : v.status = none) :
    (es.foldl (Sight.after job) v).status = none ↔ IsGone es job := by
  constructor
  · intro hnone
    by_contra h
    obtain ⟨before, after, rfl, hcreated, hdeletion⟩ := created_last_of_not_gone h
    rw [status_foldl_of_created hcreated hdeletion] at hnone
    cases hnone
  · rintro (hcreated | ⟨before, after, rfl, hcreated, hdeletion⟩)
    · exact status_foldl_eq_none hcreated hv
    · obtain ⟨kept, rest, rfl⟩ := List.append_of_mem hdeletion
      simp only [List.mem_append, List.mem_cons, not_or] at hcreated
      rw [List.foldl_append, List.foldl_cons, List.foldl_append, List.foldl_cons]
      exact status_foldl_eq_none hcreated.2.2 (by simp [Sight.after, Entry.job])

/-- the answer about the status of a job after that history -/
structure Tells (es : List Entry) (job : String) (answer : Except Error (Option Snapshot)) : Prop where
  fails_iff : ∀ e, answer = .error e ↔
    IsHidden es job ∧ e = .transientStatus job "status endpoint unavailable"
  absent_iff : answer = .ok none ↔ ¬ IsHidden es job ∧ IsGone es job
  /-- no status that was put in before the job was created last is told of it -/
  present : ¬ IsHidden es job → ∀ before after, es = before ++ .created job :: after → .created job ∉ after →
    .deletion job ∉ after → answer = .ok (some ((lastStatus? after job).getD (.ofAccepted job)))
  ownName : ∀ snapshot, answer = .ok (some snapshot) → snapshot.job = job

theorem job_of_lastStatus? {snapshot : Snapshot} (h : lastStatus? es job = some snapshot) : snapshot.job = job := by
  obtain ⟨e, _, he⟩ := List.mem_filterMap.1 (List.mem_of_getLast? h)
  cases e with
  | status put =>
    simp only [Entry.statusOf?] at he
    split_ifs at he with hjob
    cases he
    exact hjob
  | _ => cases he

theorem answer_eq_error_iff {e : Error} : v.answer job = .error e ↔
    v.hidden = true ∧ e = .transientStatus job "status endpoint unavailable" := by
  unfold Sight.answer
  split_ifs with h <;> simp [h, eq_comm]

theorem answer_eq_ok_iff {found : Option Snapshot} : v.answer job = .ok found ↔
    v.hidden = false ∧ (v.status.map fun status => status.getD (.ofAccepted job)) = found := by
  unfold Sight.answer
  split_ifs with h <;> simp [h]

theorem tells_foldl (es : List Entry) (job : String) :
    Tells es job ((es.foldl (Sight.after job) ⟨false, none⟩).answer job) := by
  have hhidden : (es.foldl (Sight.after job) ⟨false, none⟩).hidden = true ↔ IsHidden es job := hidden_foldl rfl
  have hopen : (es.foldl (Sight.after job) ⟨false, none⟩).hidden = false ↔ ¬ IsHidden es job := by
    rw [← hhidden, Bool.not_eq_true]
  have hgone : (es.foldl (Sight.after job) ⟨false, none⟩).status = none ↔ IsGone es job := status_foldl_eq_none_iff rfl
  refine ⟨fun e => ?_, ?_, ?_, fun snapshot hsome => ?_⟩
  · rw [answer_eq_error_iff, hhidden]
  · rw [answer_eq_ok_iff, hopen, Option.map_eq_none_iff, hgone]
  · rintro hshown before after rfl hcreated hdeletion
    rw [answer_eq_ok_iff, status_foldl_of_created hcreated hdeletion]
    exact ⟨hopen.2 hshown, rfl⟩
  · obtain ⟨_, hstatus⟩ := answer_eq_ok_iff.1 hsome
    have hthere : ¬ IsGone es job := fun h => by simp [hgone.2 h] at hstatus
    obtain ⟨before, after, rfl, hcreated, hdeletion⟩ := created_last_of_not_gone hthere
    rw [status_foldl_of_created hcreated hdeletion] at hstatus
    cases hlast : lastStatus? after job with
    | none =>
      rw [hlast] at hstatus
      cases hstatus
      rfl
    | some put =>
      rw [hlast] at hstatus
      cases hstatus
      exact job_of_lastStatus? hlast

end History

/-! ## Among other clients -/

namespace Handovers

open History

/-- what the history says of an event -/
def Event.recorded? : Event → Option Entry
  | .answered s result => if result = .ok .created then some (.created s.id) else none
  | .deleted _ => none

/-- what the history says of a step -/
def recorded? (s : St) (o : Op) : Option Entry :=
  match o with
  | .advance _ => (step s o).2.bind Event.recorded?
  | .setStatus snapshot => some (.status snapshot)
  | .delete job => some (.deletion job)
  | .markUnavailable job => some (.hiding job)
  | .markAvailable job => some (.showing job)
  | .begin _ | .cut _ | .rejectNext _ | .setApplyDelay _ => none

def history (s : St) : List Op → List Entry
  | [] => []
  | o :: ops => (recorded? s o).toList ++ history (step s o).1 ops

theorem step_setStatus (s : St) (snapshot : Snapshot) :
    (step s (.setStatus snapshot)).1.cluster = changed s.cluster (s.cluster.setStatus snapshot) := by
  simp only [step]
  cases s.cluster.setStatus snapshot <;> rfl

theorem step_delete (s : St) (job : String) :
    (step s (.delete job)).1.cluster = changed s.cluster (s.cluster.delete job) := by
  simp only [step]
  cases s.cluster.delete job <;> rfl

theorem look_step (s : St) (o : Op) (job : String) :
    look (step s o).1.cluster job = (recorded? s o).toList.foldl (Sight.after job) (look s.cluster job) := by
  cases o with
  | advance k =>
    cases hcall : s.calls[k]? with
    | none => simp only [recorded?, step, hcall]; rfl
    | some h =>
      rcases step_advance hcall with ⟨calls, hstep⟩ | ⟨result, d, hanswer, hstep⟩
      · simp only [recorded?, hstep]
        rfl
      · simp only [recorded?, hstep]
        exact look_of_answer hanswer job
  | setStatus snapshot =>
    rw [step_setStatus]
    exact look_setStatus s.cluster snapshot job
  | delete name =>
    rw [step_delete]
    exact look_delete s.cluster name job
  | markUnavailable name => exact look_markUnavailable s.cluster name job
  | markAvailable name => exact look_markAvailable s.cluster name job
  | _ => rfl

theorem look_run (s : St) (ops : List Op) (job : String) :
    look (run s ops).cluster job = (history s ops).foldl (Sight.after job) (look s.cluster job) := by
  induction ops generalizing s with
  | nil => rfl
  | cons o ops ih =>
    rw [history, List.foldl_append, ← look_step]
    exact ih (step s o).1

end Handovers

namespace History

/-- **The history of a job decides what is told of its status.** Of a cluster that was empty at first and of any
requests, one after another, or any steps of calls, whole or given up, among those of other clients, with refusals and
delays: reading the status of a job fails just when the last mark of the job hides it. Otherwise it finds nothing if the
job was never created, or deleted since it was created last, and else the last status put in since then, or that the job
is accepted if there was none; a status that is found carries the name of the job. Leaving out all requests about other
jobs changes no answer, and nor does a step whose entry is about another job. -/
theorem status_tells_history (ns job : String) :
    (∀ requests : List Request,
      Tells (history { ns } requests) job ((run { ns } requests).status job) ∧
      (run { ns } requests).status job = (run { ns } (requests.filter fun r => r.job == job)).status job) ∧
    (∀ ops : List Handovers.Op, Tells (Handovers.history (Handovers.init ns) ops) job
      ((Handovers.run (Handovers.init ns) ops).cluster.status job)) ∧
    ∀ (s : Handovers.St) (o : Handovers.Op), (∀ e ∈ Handovers.recorded? s o, e.job ≠ job) →
      (Handovers.step s o).1.cluster.status job = s.cluster.status job := by
  refine ⟨fun requests => ⟨?_, ?_⟩, fun ops => ?_, fun s o hothers => ?_⟩
  · rw [status_eq, look_run]
    exact tells_foldl _ job
  · rw [status_eq, status_eq, look_run_filter rfl rfl rfl]
  · rw [status_eq, Handovers.look_run]
    exact tells_foldl _ job
  · rw [status_eq, status_eq, Handovers.look_step]
    cases hentry : Handovers.recorded? s o with
    | none => rfl
    | some e => exact congrArg (Sight.answer · job) (after_of_ne (hothers e hentry) _)

/-- a job with a status that is deleted and created again, and hidden for a while, in this order and as others see it -/
theorem recreated_job_starts_afresh :
    let job : Submission := { (default : Submission) with id := "train", contentHash := "1f" }
    let training : Snapshot := { job := "train", accepted := true, message := some "step 7" }
    let requests : List Request := [.apply job, .setStatus training, .delete "train", .markUnavailable "train",
      .setStatus training, .apply job, .apply { job with id := "eval" }, .markAvailable "train", .apply job]
    (run { ns := "team" } (requests.take 2)).status "train" = .ok (some training) ∧
    (run { ns := "team" } (requests.take 6)).status "train" =
      .error (.transientStatus "train" "status endpoint unavailable") ∧
    (run { ns := "team" } requests).status "train" = .ok (some (.ofAccepted "train")) ∧
    (run { ns := "team" } (requests.filter fun r => r.job == "train")).status "train" =
      .ok (some (.ofAccepted "train")) := by
  intro job training requests
  obtain ⟨hrun, -, -⟩ := status_tells_history "team" "train"
  have hhistory : history { ns := "team" } requests = [.created "train", .status training, .deletion "train",
      .hiding "train", .status training, .created "train", .created "eval", .showing "train"] := by decide +kernel
  obtain ⟨htells, hothers⟩ := hrun requests
  have hafresh : (run { ns := "team" } requests).status "train" = .ok (some (.ofAccepted "train")) := by
    rw [hhistory] at htells
    exact htells.present (by decide) [.created "train", .status training, .deletion "train", .hiding "train",
      .status training] [.created "eval", .showing "train"] rfl (by decide) (by decide)
  refine ⟨?_, ?_, hafresh, hothers ▸ hafresh⟩
  · have hfirst : history { ns := "team" } (requests.take 2) = [.created "train", .status training] := by
      decide +kernel
    obtain ⟨htells, -⟩ := hrun (requests.take 2)
    rw [hfirst] at htells
    exact htells.present (by decide) [] [.status training] rfl (by decide) (by decide)
  · have hhidden : IsHidden (history { ns := "team" } (requests.take 6)) "train" := by decide +kernel
    exact ((hrun (requests.take 6)).1.fails_iff _).2 ⟨hhidden, rfl⟩

end History

end TrainingJobs
