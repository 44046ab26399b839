/-
Jobs that are handed over in vain. A call on a cluster in memory deals with four things one after another, the count of
calls, the delay, the refusal that has been ordered and the jobs, and it may end at each of the last three: given up
while it waits, rejected as ordered, or stopped by the job that holds its name.

- `Answer.kept`, `Answer.usedUp`: what an answer changes, and what it takes of an ordered refusal;
- `submit_late_is_cut`: a submission that is too late, as a call that is given up;
- `step_advance`, `step_effect`, `step_over`: what one step does to its call, to the count and to an ordered refusal,
  and what none does to a call that is over;
- `failures_leave_jobs_alone`: calls in one piece, within a timeout and among the steps of other clients;
- `endless_delay_is_in_time`: a delay so long that it is over before a shorter timeout, and a count that starts again.
-/
import TrainingJobs.Proofs.Cluster.Handovers
import TrainingJobs.Proofs.Status.Silence

namespace TrainingJobs

/-! ## Answers -/

namespace LocalCluster

/-- the answer is that a refusal had been ordered -/
def isRejection : Except Error ApplyOutcome → Bool
  | .error (.submission _ (.stated _)) => true
  | _ => false

/-- the refusals that have been ordered and not used up -/
def pending (c : LocalCluster) : ℕ := c.rejection.toList.length

variable {c d : LocalCluster} {s : Submission} {result : Except Error ApplyOutcome}

theorem Answer.calls (h : Answer c s result d) : d.calls = c.calls := by
  cases h <;> rfl

/-- an answer that is neither a rejection nor a creation changes nothing -/
theorem Answer.kept (h : Answer c s result d) (hrejection : isRejection result = false)
    (hcreated : result ≠ .ok .created) : d = c := by
  cases h with
  | rejected => cases hrejection
  | refused => rfl
  | confirmed => rfl
  | created => exact absurd rfl hcreated

/-- only a rejection uses up the refusal that has been ordered -/
theorem Answer.usedUp (h : Answer c s result d) : (isRejection result).toNat + d.pending = c.pending := by
  cases h with
  | rejected hpending => simp [isRejection, pending, hpending]
  | _ => simp [isRejection, pending]

theorem takeIn_rejected {reason : String} (hpending : c.rejection = some reason) (s : Submission) :
    c.takeIn s = (.error (.submission s.id (.stated reason)), { c with rejection := none }) := by
  simp [takeIn, hpending, takeRejection]

/-- a job is rejected just when a refusal has been ordered -/
theorem isRejection_takeIn (c : LocalCluster) (s : Submission) :
    isRejection (c.takeIn s).1 = c.rejection.isSome := by
  cases hpending : c.rejection with
  | some reason => rw [takeIn_rejected hpending]; rfl
  | none =>
    have hused : (isRejection (c.takeIn s).1).toNat + (c.takeIn s).2.pending = c.pending := (c.takeIn_answer s).usedUp
    have hnone : isRejection (c.takeIn s).1 = false ∧ (c.takeIn s).2.rejection = none := by
      simpa [pending, hpending] using hused
    exact hnone.1

/-- what a call that nobody interrupts leaves behind -/
structure Handed (c : LocalCluster) (s : Submission) : Prop where
  counted : (c.apply s).2.calls = c.calls + 1
  rejected_iff : isRejection (c.apply s).1 = true ↔ ∃ reason, c.rejection = some reason
  /-- in the words in which the refusal was ordered -/
  rejected : ∀ reason, c.rejection = some reason →
    c.apply s = (.error (.submission s.id (.stated reason)),
      { c with calls := c.calls + 1, rejection := none }) ∧ (Refusal.stated reason).message = reason
  once : isRejection (c.apply s).1 = true → ∀ next, isRejection ((c.apply s).2.apply next).1 = false
  kept : isRejection (c.apply s).1 = false → (c.apply s).1 ≠ .ok .created →
    (c.apply s).2 = { c with calls := c.calls + 1 }

theorem handed (c : LocalCluster) (s : Submission) : c.Handed s := by
  have hanswer : Answer c.countCall s (c.apply s).1 (c.apply s).2 := c.countCall.takeIn_answer s
  have hrejection : ∀ (c : LocalCluster) (s : Submission), isRejection (c.apply s).1 = c.rejection.isSome :=
    fun c s => c.countCall.isRejection_takeIn s
  have hrejected : ∀ reason, c.rejection = some reason → c.apply s = (.error (.submission s.id (.stated reason)),
      { c with calls := c.calls + 1, rejection := none }) :=
    fun reason hpending => takeIn_rejected (c := c.countCall) hpending s
  refine ⟨hanswer.calls, ?_, fun reason hpending => ⟨hrejected reason hpending, rfl⟩, ?_, hanswer.kept⟩
  · rw [hrejection, Option.isSome_iff_exists]
  · intro hfirst next
    rw [hrejection, Option.isSome_iff_exists] at hfirst
    obtain ⟨reason, hpending⟩ := hfirst
    rw [hrejection, hrejected reason hpending]
    rfl

end LocalCluster

/-! ## Within a timeout -/

namespace Session

variable (s : Session) (job : Submission)

/-- handing over a job takes longer than it may -/
def IsLate : Prop := s.timer.span s.settings.submit.applyTimeout < s.timer.delay s.cluster.applyDelay

/-- what comes of a submission that has not ended when its time is over -/
def lateness : Except Error SubmitOutcome :=
  .error (.timeout ("apply " ++ job.id) s.settings.submit.applyTimeout.word)

theorem submit_late (h : s.IsLate) :
    (s.submit (.distributed job)).1 = s.lateness job ∧
      (s.submit (.distributed job)).2.cluster = s.cluster.countCall := by
  have hcut : (s.timer.bounded s.cluster.applyDelay s.settings.submit.applyTimeout).cut = true :=
    (s.timer.bounded_cut_iff _ _).2 h
  simp only [submit, hcut, if_true]
  exact ⟨rfl, rfl⟩

theorem submit_inTime (h : ¬ s.IsLate) :
    (s.submit (.distributed job)).1 = SubmitOutcome.ofApply job (s.cluster.apply job).1 ∧
      (s.submit (.distributed job)).2.cluster = (s.cluster.apply job).2 := by
  have hcut : ¬ (s.timer.bounded s.cluster.applyDelay s.settings.submit.applyTimeout).cut = true :=
    mt (s.timer.bounded_cut_iff _ _).1 h
  simp only [submit, hcut]
  exact ⟨rfl, rfl⟩

/-- A submission that is too late is a call that is given up while it waits. -/
theorem submit_late_is_cut (h : s.IsLate) :
    Handovers.run ⟨s.cluster, []⟩ [.begin job, .advance 0, .cut 0] =
      ⟨(s.submit (.distributed job)).2.cluster, [⟨job, .cut⟩]⟩ := by
  rw [(s.submit_late job h).2]
  cases hdelay : s.cluster.applyDelay with
  | none =>
    rw [IsLate, hdelay] at h
    exact absurd h (Nat.not_lt_zero _)
  | some delay =>
    simp [Handovers.run, Handovers.step, Handovers.Handover.advance, Handovers.Handover.giveUp,
      LocalCluster.countCall, hdelay]

/-- Up to the span that a timer keeps, a delay that exceeds the timeout by a millisecond is too long. -/
theorem isLate_of_keeps {longest delay : Duration} (hkeeps : s.timer.Keeps longest)
    (hdelay : s.cluster.applyDelay = some delay)
    (hexceeds : s.settings.submit.applyTimeout.total + 1000000 ≤ delay.total)
    (hkept : s.settings.submit.applyTimeout.total + 1000000 ≤ longest.total) : s.IsLate := by
  rw [IsLate, hdelay]
  exact hkeeps.span_lt_span hexceeds hkept

/-- the cluster never answers that time is over -/
theorem ofApply_ne_lateness : SubmitOutcome.ofApply job (s.cluster.apply job).1 ≠ s.lateness job := by
  have hanswer : LocalCluster.Answer s.cluster.countCall job (s.cluster.apply job).1 (s.cluster.apply job).2 :=
    s.cluster.countCall.takeIn_answer job
  generalize s.cluster.apply job = answer at hanswer ⊢
  obtain ⟨result, d⟩ := answer
  cases hanswer <;> simp [SubmitOutcome.ofApply, lateness, Except.map]

/-- what handing over a job leaves behind, with a time for it or without -/
structure Submitted : Prop where
  counted : (s.submit (.distributed job)).2.cluster.calls = s.cluster.calls + 1
  /-- a delay that exceeds the timeout by a millisecond, if the timer keeps time that long -/
  late : ∀ longest, s.timer.Keeps longest → ∀ delay, s.cluster.applyDelay = some delay →
    s.settings.submit.applyTimeout.total + 1000000 ≤ delay.total →
    s.settings.submit.applyTimeout.total + 1000000 ≤ longest.total →
    (s.submit (.distributed job)).1 = s.lateness job
  cut : (s.submit (.distributed job)).1 = s.lateness job →
    (s.submit (.distributed job)).2.cluster = { s.cluster with calls := s.cluster.calls + 1 }
  /-- it is the call that is given up while it waits -/
  givenUp : (s.submit (.distributed job)).1 = s.lateness job →
    Handovers.run ⟨s.cluster, []⟩ [.begin job, .advance 0, .cut 0] =
      ⟨(s.submit (.distributed job)).2.cluster, [⟨job, .cut⟩]⟩
  inTime : (s.submit (.distributed job)).1 ≠ s.lateness job →
    (s.submit (.distributed job)).1 = SubmitOutcome.ofApply job (s.cluster.apply job).1 ∧
      (s.submit (.distributed job)).2.cluster = (s.cluster.apply job).2
  untimed : (s.apply job).1 = (s.cluster.apply job).1 ∧ (s.apply job).2.cluster = (s.cluster.apply job).2

theorem submitted : s.Submitted job := by
  by_cases hlate : s.IsLate
  · obtain ⟨hresult, hcluster⟩ := s.submit_late job hlate
    exact ⟨by rw [hcluster]; rfl, fun _ _ _ _ _ _ => hresult, fun _ => hcluster,
      fun _ => s.submit_late_is_cut job hlate, fun h => absurd hresult h, rfl, rfl⟩
  · obtain ⟨hresult, hcluster⟩ := s.submit_inTime job hlate
    have hne : (s.submit (.distributed job)).1 ≠ s.lateness job := hresult ▸ s.ofApply_ne_lateness job
    refine ⟨by rw [hcluster]; exact (s.cluster.handed job).counted,
      fun longest hkeeps delay hdelay hexceeds hkept => ?_, fun h => absurd h hne, fun h => absurd h hne,
      fun _ => ⟨hresult, hcluster⟩, rfl, rfl⟩
    exact absurd (s.isLate_of_keeps hkeeps hdelay hexceeds hkept) hlate

end Session

/-! ## Among other clients -/

namespace Handovers

open LocalCluster

def Event.isRejection : Event → Bool
  | .answered _ result => LocalCluster.isRejection result
  | .deleted _ => false

def Op.begins : Op → Bool
  | .begin _ => true
  | _ => false

/-- the operation orders a refusal -/
def Op.orders : Op → Bool
  | .rejectNext _ => true
  | _ => false

/-- The next step of a call leaves the cluster as it is, unseen by others, or answers the call. -/
theorem step_advance {s : St} {k : ℕ} {h : Handover} (hcall : s.calls[k]? = some h) :
    (∃ calls, step s (.advance k) = (⟨s.cluster, calls⟩, none)) ∨
    ∃ result d, Answer s.cluster h.submission result d ∧ step s (.advance k) =
      (⟨d, s.calls.set k { h with stage := .answered result }⟩, some (.answered h.submission result)) := by
  cases ha : h.advance s.cluster with
  | none => exact .inl ⟨s.calls, by simp only [step, hcall, ha]⟩
  | some next =>
    obtain ⟨d, stage⟩ := next
    rcases advance_answer ha with ⟨rfl, hgoes⟩ | ⟨result, rfl, hanswer⟩
    · exact .inl ⟨_, by simp only [step, hcall, ha, event?_of_not_over hgoes]; rfl⟩
    · exact .inr ⟨result, d, hanswer, by simp only [step, hcall, ha]; rfl⟩

/-- the cluster after an operation, as far as calls and refusals go -/
inductive Effect (c : LocalCluster) : Op → Option Event → LocalCluster → Prop where
  | began (s : Submission) : Effect c (.begin s) none c.countCall
  | ordered (reason : String) : Effect c (.rejectNext reason) none (c.rejectNext reason)
  | answered {k : ℕ} {s : Submission} {result : Except Error ApplyOutcome} {d : LocalCluster}
      (answer : Answer c s result d) : Effect c (.advance k) (some (.answered s result)) d
  | other {o : Op} {e : Option Event} {d : LocalCluster} (begins : o.begins = false) (orders : o.orders = false)
      (event : e.toList.countP Event.isRejection = 0) (calls : d.calls = c.calls)
      (rejection : d.rejection = c.rejection) : Effect c o e d

theorem step_effect (s : St) (o : Op) : Effect s.cluster o (step s o).2 (step s o).1.cluster := by
  cases o with
  | begin sub => exact .began sub
  | advance k =>
    cases hcall : s.calls[k]? with
    | none =>
      simp only [step, hcall]
      exact .other rfl rfl rfl rfl rfl
    | some h =>
      rcases step_advance hcall with ⟨calls, hstep⟩ | ⟨result, d, hanswer, hstep⟩
      · rw [hstep]
        exact .other rfl rfl rfl rfl rfl
      · rw [hstep]
        exact .answered hanswer
  | setStatus snapshot =>
    simp only [step, LocalCluster.setStatus]
    cases s.cluster.jobs.find? snapshot.job <;> exact .other rfl rfl rfl rfl rfl
  | delete job =>
    simp only [step, LocalCluster.delete]
    by_cases taken : s.cluster.jobs.contains job = true
    · rw [if_pos taken]
      exact .other rfl rfl rfl rfl rfl
    · rw [if_neg taken]
      exact .other rfl rfl rfl rfl rfl
  | rejectNext reason => exact .ordered reason
  | _ => exact .other rfl rfl rfl rfl rfl

theorem Effect.counted {c d : LocalCluster} {o : Op} {e : Option Event} (h : Effect c o e d) :
    d.calls = c.calls + if o.begins then 1 else 0 := by
  cases h with
  | began => rfl
  | ordered => exact (UInt64.add_zero _).symm
  | answered answer => exact answer.calls.trans (UInt64.add_zero _).symm
  | other begins _ _ calls => simp [begins, calls]

/-- a refusal that is used up, or still pending, was pending before or has been ordered -/
theorem Effect.usedUp {c d : LocalCluster} {o : Op} {e : Option Event} (h : Effect c o e d) :
    e.toList.countP Event.isRejection + d.pending ≤ c.pending + if o.orders then 1 else 0 := by
  cases h with
  | began => exact Nat.le_of_eq (Nat.zero_add _)
  | ordered => simp [pending, LocalCluster.rejectNext, Op.orders]
  | @answered _ s result _ answer =>
    have hcount : [Event.answered s result].countP Event.isRejection = (LocalCluster.isRejection result).toNat := by
      cases hresult : LocalCluster.isRejection result <;> simp [Event.isRejection, hresult]
    rw [Option.toList_some, hcount, answer.usedUp]
    exact Nat.le_refl _
  | other _ orders event _ rejection => simp [orders, event, pending, rejection]

theorem run_counted (s : St) (ops : List Op) :
    (run s ops).cluster.calls = s.cluster.calls + .ofNat (ops.countP Op.begins) := by
  induction ops generalizing s with
  | nil => exact (UInt64.add_zero _).symm
  | cons o ops ih =>
    rw [run_cons, ih, (step_effect s o).counted, List.countP_cons, UInt64.add_assoc]
    cases o.begins
    · simp
    · simp [UInt64.ofNat_add, UInt64.add_comm]

theorem run_usedUp (s : St) (ops : List Op) :
    (events s ops).countP Event.isRejection + (run s ops).cluster.pending ≤
      s.cluster.pending + ops.countP Op.orders := by
  induction ops generalizing s with
  | nil => exact Nat.le_of_eq (Nat.zero_add _)
  | cons o ops ih =>
    have hstep := (step_effect s o).usedUp
    have hrest := ih (step s o).1
    rw [run_cons, events, List.countP_append, List.countP_cons]
    omega

/-! ## Calls that are over -/

theorem advance_over {h : Handover} (hover : h.stage.isOver = true) (c : LocalCluster) : h.advance c = none := by
  obtain ⟨s, stage⟩ := h
  cases stage <;> first | rfl | cases hover

theorem giveUp_over {h : Handover} (hover : h.stage.isOver = true) : h.giveUp = h := by
  obtain ⟨s, stage⟩ := h
  cases stage <;> first | rfl | cases hover

/-- a call that is over stays as it is, whatever happens -/
theorem step_over {s : St} {k : ℕ} {h : Handover} (hcall : s.calls[k]? = some h) (hover : h.stage.isOver = true)
    (o : Op) : (step s o).1.calls[k]? = some h := by
  cases o with
  | begin sub =>
    have hlt : k < s.calls.length := (List.getElem?_eq_some_iff.1 hcall).1
    rw [step, List.getElem?_append_left hlt]
    exact hcall
  | advance j =>
    simp only [step]
    split
    · exact hcall
    · rename_i h' hcall'
      split
      · exact hcall
      · rename_i ha
        have hne : j ≠ k := by
          rintro rfl
          rw [hcall] at hcall'
          cases hcall'
          rw [advance_over hover] at ha
          cases ha
        rw [List.getElem?_set_ne hne]
        exact hcall
  | cut j =>
    rw [step, List.getElem?_modify, hcall]
    split_ifs
    · exact congrArg some (giveUp_over hover)
    · rfl
  | setStatus snapshot =>
    simp only [step]
    split <;> exact hcall
  | delete job =>
    simp only [step]
    split <;> exact hcall
  | _ => exact hcall

theorem run_over {s : St} {k : ℕ} {h : Handover} (hcall : s.calls[k]? = some h) (hover : h.stage.isOver = true)
    (ops : List Op) : (run s ops).calls[k]? = some h := by
  induction ops generalizing s with
  | nil => exact hcall
  | cons o ops ih => exact ih (step_over hcall hover o)

/-- what the call of that number does on its way, whoever else takes steps -/
structure OnItsWay (s : St) (k : ℕ) (h : Handover) : Prop where
  goesOn : (step s (.advance k)).2 = none → (step s (.advance k)).1.cluster = s.cluster
  answered : ∀ e, (step s (.advance k)).2 = some e → ∃ result, e = .answered h.submission result ∧
    Answer s.cluster h.submission result (step s (.advance k)).1.cluster ∧
    (step s (.advance k)).1.calls[k]? = some { h with stage := .answered result }
  givenUp : (step s (.cut k)).1.cluster = s.cluster ∧
    (h.stage = .waiting → (step s (.cut k)).1.calls[k]? = some { h with stage := .cut })
  ended : h.stage.isOver = true → ∀ ops, step (run s ops) (.advance k) = (run s ops, none)

theorem onItsWay {s : St} {k : ℕ} {h : Handover} (hcall : s.calls[k]? = some h) : OnItsWay s k h := by
  have hlt : k < s.calls.length := (List.getElem?_eq_some_iff.1 hcall).1
  refine ⟨fun hevent => ?_, fun e hevent => ?_, ⟨rfl, fun hwaiting => ?_⟩, fun hover ops => ?_⟩
  · rcases step_advance hcall with ⟨calls, hstep⟩ | ⟨result, d, _, hstep⟩
    · rw [hstep]
    · rw [hstep] at hevent
      cases hevent
  · rcases step_advance hcall with ⟨calls, hstep⟩ | ⟨result, d, hanswer, hstep⟩
    · rw [hstep] at hevent
      cases hevent
    · rw [hstep] at hevent ⊢
      cases hevent
      exact ⟨result, rfl, hanswer, List.getElem?_set_self hlt⟩
  · rw [step, List.getElem?_modify, hcall]
    simp [Handover.giveUp, hwaiting]
  · simp only [step, run_over hcall hover ops, advance_over hover]

end Handovers

/-! ## Handing over in vain -/

/-- **Failures leave the jobs alone.** Whatever the cluster and the job, a call in one piece counts itself; it is
rejected just when a refusal has been ordered, in the words of the order, which it uses up and nothing else; and if the
holder of the name stops it, or is its own job, it changes nothing. A submission whose delay exceeds its timeout by a
millisecond is too late, whatever the timer, as long as it keeps time up to a millisecond more than the timeout; too
late, it is a call given up while it waits and leaves nothing behind but its count, and a refusal stays pending; else it
does what the call in one piece does. Among the steps of other clients, a call changes nothing while it goes on or when
it is given up, its answer is one of the four, and then it does nothing any more; each call is counted once, in 64 bits,
and no more calls are rejected than refusals have been ordered. -/
theorem failures_leave_jobs_alone :
    (∀ (c : LocalCluster) (job : Submission), c.Handed job) ∧
    (∀ (s : Session) (job : Submission), s.Submitted job) ∧
    (∀ (s : Handovers.St) (k : ℕ) (h : Handovers.Handover), s.calls[k]? = some h → Handovers.OnItsWay s k h) ∧
    ∀ (s : Handovers.St) (ops : List Handovers.Op),
      (Handovers.run s ops).cluster.calls = s.cluster.calls + .ofNat (ops.countP Handovers.Op.begins) ∧
      (Handovers.events s ops).countP Handovers.Event.isRejection + (Handovers.run s ops).cluster.pending ≤
        s.cluster.pending + ops.countP Handovers.Op.orders :=
  ⟨LocalCluster.handed, Session.submitted, fun _ _ _ => Handovers.onItsWay,
    fun s ops => ⟨Handovers.run_counted s ops, Handovers.run_usedUp s ops⟩⟩

/-- a submission that is too late by a millisecond, one that is rejected as ordered, and one that creates the job -/
theorem late_then_rejected_then_created :
    let job : Submission := { (default : Submission) with id := "train", contentHash := "1f" }
    let s : Session := { Session.start {} "team" with
      cluster := { ns := "team", rejection := some "gpu quota exceeded", applyDelay := some ⟨30, 1000000⟩ } }
    let t := (s.submit (.distributed job)).2
    let c := (t.cluster.apply job).2
    s.timer.Keeps ⟨68719476, 734000000⟩ ∧
      (s.submit (.distributed job)).1 = .error (.timeout "apply train" 30000) ∧
      t.cluster.rejection = some "gpu quota exceeded" ∧ t.cluster.jobs = ∅ ∧
      (t.cluster.apply job).1 = .error (.submission "train" (.stated "gpu quota exceeded")) ∧ c.jobs = ∅ ∧
      (c.apply job).1 = .ok .created ∧ (c.apply job).2.calls = 3 := by
  intro job s t c
  obtain ⟨handed, submitted, _⟩ := failures_leave_jobs_alone
  have hkeeps : s.timer.Keeps ⟨68719476, 734000000⟩ := Timer.clock64_keeps (by decide)
  have hlate : (s.submit (.distributed job)).1 = s.lateness job :=
    (submitted s job).late _ hkeeps ⟨30, 1000000⟩ rfl (by decide) (by decide)
  have ht : t.cluster = { s.cluster with calls := s.cluster.calls + 1 } := (submitted s job).cut hlate
  have hpending : t.cluster.rejection = some "gpu quota exceeded" := by rw [ht]
  have hrejected : t.cluster.apply job = (.error (.submission "train" (.stated "gpu quota exceeded")),
      { t.cluster with calls := t.cluster.calls + 1, rejection := none }) :=
    ((handed t.cluster job).rejected _ hpending).1
  have hc : c = { ns := "team", applyDelay := some ⟨30, 1000000⟩, calls := 2 } := by
    change (t.cluster.apply job).2 = _
    rw [hrejected, ht]
    decide +kernel
  have hlateness : s.lateness job = .error (.timeout "apply train" 30000) := by decide +kernel
  refine ⟨hkeeps, hlate.trans hlateness, hpending, by rw [ht], by rw [hrejected], by rw [hc], ?_, ?_⟩
  · rw [hc]
    decide +kernel
  · rw [(handed c job).counted, hc]
    rfl

/-- **A delay that is over before a shorter timeout.** The clock cannot tell the delay, but it can tell the timeout. And
a full count of calls starts again. -/
theorem endless_delay_is_in_time :
    let job : Submission := { (default : Submission) with id := "train", contentHash := "1f" }
    let delay : Duration := .ofMilliseconds 18446744073709551615
    let s : Session := { Session.start { submit := { applyTimeout := .ofMilliseconds 1000000000000 } } "team" with
      cluster := { ns := "team", applyDelay := some delay } }
    let full : LocalCluster := { ns := "team", calls := 18446744073709551615 }
    s.settings.submit.applyTimeout.total + 1000000 ≤ delay.total ∧
      (s.submit (.distributed job)).1 = .ok (.submitted "train" .created) ∧
      (s.submit (.distributed job)).2.cluster.jobs.contains "train" = true ∧
      (full.apply job).2.applyCalls = 0 := by
  decide +kernel

end TrainingJobs
