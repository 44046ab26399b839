/-
Jobs of which nothing is known. Unknown is what the last rule says of a job, and silence is what it stands for: none of
the earlier rules takes silence for evidence, not even the one by which all roles have succeeded, and any evidence, in
whatever mix, is caught by one of them or makes the job queued.

- `isSilent_iff`: silence, as the absence of each piece of evidence;
- `Silent.not_fails`, `Silent.hasSucceeded`, `Silent.isRunning`: no rule takes it for evidence;
- `unknown_iff_silent`: which snapshots are unknown;
- `pollReport_unknown_iff`, `Wait.report_unknown_iff`: which reads are, in time or not;
- `unknown_hides_nothing`: all of it for every snapshot, run policy and poll.
-/
import TrainingJobs.Proofs.Status.Waiting
import TrainingJobs.Proofs.Time
import TrainingJobs.Session

namespace TrainingJobs

/-! ## Silence -/

theorem RoleConditions.isEmpty_iff (s : RoleConditions) : s.isEmpty = true ↔ ∀ c, s.has c = false := by
  have hall : ∀ c, c ∈ RoleCondition.all := by intro c; cases c <;> decide
  rw [isEmpty, toList, List.isEmpty_iff, List.filter_eq_nil_iff]
  simp [hall]

theorem JobConditions.isEmpty_iff (s : JobConditions) : s.isEmpty = true ↔ ∀ c, s.has c = false := by
  have hall : ∀ c, c ∈ JobCondition.all := by intro c; cases c <;> decide
  rw [isEmpty, toList, List.isEmpty_iff, List.filter_eq_nil_iff]
  simp [hall]

/-- of a role nothing is reported but, perhaps, a message -/
structure RoleStatus.Silent (r : RoleStatus) : Prop where
  conditions : ∀ c, r.conditions.has c = false
  active : r.replicas.active = 0
  succeeded : r.replicas.succeeded = 0
  failed : r.replicas.failed = 0

theorem RoleStatus.isSilent_iff (r : RoleStatus) : r.isSilent = true ↔ r.Silent := by
  rw [isSilent, Bool.and_eq_true, RoleConditions.isEmpty_iff, beq_iff_eq]
  constructor
  · rintro ⟨hconditions, hcounts⟩
    exact ⟨hconditions, congrArg (·.active) hcounts, congrArg (·.succeeded) hcounts, congrArg (·.failed) hcounts⟩
  · rintro ⟨hconditions, hactive, hsucceeded, hfailed⟩
    refine ⟨hconditions, ?_⟩
    cases hcounts : r.replicas
    simp_all

namespace Snapshot

/-- of a job nothing is reported but messages and the names of roles -/
structure Silent (s : Snapshot) : Prop where
  accepted : s.accepted = false
  conditions : ∀ c, s.conditions.has c = false
  roles : ∀ r ∈ s.roles.values, r.Silent

variable {s : Snapshot}

theorem isSilent_iff (s : Snapshot) : s.isSilent = true ↔ s.Silent := by
  rw [isSilent, Bool.and_eq_true, Bool.and_eq_true, Bool.not_eq_true', JobConditions.isEmpty_iff, List.all_eq_true]
  simp only [RoleStatus.isSilent_iff]
  constructor
  · rintro ⟨⟨haccepted, hconditions⟩, hroles⟩
    exact ⟨haccepted, hconditions, hroles⟩
  · rintro ⟨haccepted, hconditions, hroles⟩
    exact ⟨⟨haccepted, hconditions⟩, hroles⟩

/-! ## No rule before the last one applies -/

theorem Silent.not_fails (h : s.Silent) (policy : RunPolicy) : ¬ s.Fails policy := by
  rintro (hjob | ⟨⟨r, hr, hfailed⟩, _⟩)
  · exact ne_true_of_eq_false (h.conditions .failed) hjob
  · have hcondition : r.conditions.failed = false := (h.roles r hr).conditions .failed
    simp [RoleStatus.isFailed, hcondition, (h.roles r hr).failed] at hfailed

theorem Silent.isRunning (h : s.Silent) : s.isRunning = false := by
  refine s.isRunning_eq_false_iff.2 ⟨fun r hr => ?_, h.conditions .running, h.conditions .restarting⟩
  have hrunning : r.conditions.running = false := (h.roles r hr).conditions .running
  have hrestarting : r.conditions.restarting = false := (h.roles r hr).conditions .restarting
  simp [RoleStatus.isRunning, hrunning, hrestarting, (h.roles r hr).active]

/-- a job without roles has not succeeded in all of them -/
theorem hasSucceeded_of_no_roles (h : s.roles.values = []) : s.hasSucceeded = s.conditions.succeeded := by
  have hentries : s.roles.entries = [] := List.map_eq_nil_iff.1 h
  simp [hasSucceeded, master?, allSucceeded, Dict.isEmpty, hentries]

theorem Silent.hasSucceeded (h : s.Silent) : s.hasSucceeded = false := by
  cases hvalues : s.roles.values with
  | nil =>
    rw [hasSucceeded_of_no_roles hvalues]
    exact h.conditions .succeeded
  | cons r rest =>
    have hr : r ∈ s.roles.values := by rw [hvalues]; exact List.mem_cons_self
    refine (s.hasSucceeded_eq_false_iff (List.ne_nil_of_mem hr)).2 ⟨h.conditions .succeeded, fun e he => ?_, fun _ => ?_⟩
    · have hmaster : e.2 ∈ s.roles.values := List.mem_map.2 ⟨e, (of_master?_eq_some he).1, rfl⟩
      exact (h.roles e.2 hmaster).conditions .succeeded
    · exact ⟨r, hr, (h.roles r hr).conditions .succeeded⟩

/-! ## The last rule -/

theorem unknown_iff_silent (s : Snapshot) (policy : RunPolicy) :
    (∃ r, s.interpret policy = .ok r ∧ r.phase = .unknown) ↔ s.Silent := by
  constructor
  · rintro ⟨r, hr, hphase⟩
    rw [phase_of_interpret hr, firstPhase_eq] at hphase
    exact s.isSilent_iff.1 (Bool.and_eq_true_iff.1 hphase).2
  · intro h
    obtain ⟨r, hr, hphase⟩ := interpret_of_fits (fits_of_not_fails (h.not_fails policy)) policy
    refine ⟨r, hr, ?_⟩
    rw [hphase, firstPhase_eq]
    simp [h.not_fails policy, h.hasSucceeded, h.isRunning, s.isSilent_iff.2 h]

end Snapshot

/-! ## Polls -/

theorem pollReport_unknown_iff (job : String) (policy : RunPolicy) (read : Except Error (Option Snapshot)) :
    (∃ r, pollReport job policy read = .ok r ∧ r.phase = .unknown) ↔
      (∃ e, read = .error e) ∨ read = .ok none ∨ ∃ s, read = .ok (some s) ∧ s.Silent := by
  match read with
  | .error e => exact iff_of_true ⟨_, rfl, rfl⟩ (.inl ⟨e, rfl⟩)
  | .ok none => exact iff_of_true ⟨_, rfl, rfl⟩ (.inr (.inl rfl))
  | .ok (some s) =>
    rw [pollReport, s.unknown_iff_silent]
    simp

namespace Wait

/-- what a poll makes of a read of the status that took so long -/
def report (wait : Wait) (timeout : UInt64) (job : String) (policy : RunPolicy)
    (read : Except Error (Option Snapshot)) : Except CountOverflow PhaseReport :=
  if wait.cut then .ok (timeoutReport timeout) else pollReport job policy read

theorem report_unknown_iff (wait : Wait) (timeout : UInt64) (job : String) (policy : RunPolicy)
    (read : Except Error (Option Snapshot)) : (∃ r, wait.report timeout job policy read = .ok r ∧ r.phase = .unknown) ↔
      wait.cut = true ∨ (∃ e, read = .error e) ∨ read = .ok none ∨ ∃ s, read = .ok (some s) ∧ s.Silent := by
  unfold report
  by_cases hcut : wait.cut = true
  · rw [if_pos hcut]
    exact iff_of_true ⟨_, rfl, rfl⟩ (.inl hcut)
  · rw [if_neg hcut, or_iff_right hcut]
    exact pollReport_unknown_iff job policy read

end Wait

/-- while a poll waits the watches go on, and the cluster stays as it is -/
theorem Session.poll_eq (s : Session) (job : String) (policy : RunPolicy) :
    (s.poll job policy).1 = (s.timer.bounded s.statusDelay s.settings.status.requestTimeout).report
      s.settings.status.requestTimeout.word job policy (s.cluster.status job) :=
  rfl

/-- **Unknown hides nothing.** Under every run policy a snapshot is reported as unknown just when it is silent: the job
is not taken on and has no condition, and none of its roles has a condition or a replica in any state. Whoever serves
the read of a poll, it reports unknown just when that read is cut short, fails, finds no job or gives a silent snapshot.
In a session it is cut short just when it takes longer than the timeout. -/
theorem unknown_hides_nothing :
    (∀ (s : Snapshot) (policy : RunPolicy), (∃ r, s.interpret policy = .ok r ∧ r.phase = .unknown) ↔ s.Silent) ∧
    (∀ (wait : Wait) (timeout : UInt64) (job : String) (policy : RunPolicy) (read : Except Error (Option Snapshot)),
      (∃ r, wait.report timeout job policy read = .ok r ∧ r.phase = .unknown) ↔
        wait.cut = true ∨ (∃ e, read = .error e) ∨ read = .ok none ∨ ∃ s, read = .ok (some s) ∧ s.Silent) ∧
    ∀ (s : Session) (job : String) (policy : RunPolicy),
      (∃ r, (s.poll job policy).1 = .ok r ∧ r.phase = .unknown) ↔
        s.timer.span s.settings.status.requestTimeout < s.timer.delay s.statusDelay ∨
        (∃ e, s.cluster.status job = .error e) ∨ s.cluster.status job = .ok none ∨
        ∃ snapshot, s.cluster.status job = .ok (some snapshot) ∧ snapshot.Silent := by
  refine ⟨Snapshot.unknown_iff_silent, Wait.report_unknown_iff, fun s job policy => ?_⟩
  rw [s.poll_eq, Wait.report_unknown_iff, Timer.bounded_cut_iff]

/-- roles, the coordinating one among them, of which there are only messages -/
def murmur : Snapshot where
  job := "train"
  message := some "created"
  roles := .ofList [("master", { message := some "pulling" }), ("worker", {})]

/-- the law at a snapshot of roles that say nothing, and at the same one with a single replica that has succeeded -/
theorem murmur_is_unknown :
    murmur.Silent ∧ (∃ r, murmur.interpret { backoffLimit := some 0 } = .ok r ∧ r.phase = .unknown) ∧
    let noticed := { murmur with roles := murmur.roles.insert "worker" { replicas := { succeeded := 1 } } }
    ¬ ∃ r, noticed.interpret { backoffLimit := some 0 } = .ok r ∧ r.phase = .unknown := by
  have hsilent : murmur.Silent := murmur.isSilent_iff.1 (by decide +kernel)
  refine ⟨hsilent, (unknown_hides_nothing.1 murmur _).2 hsilent, ?_⟩
  intro noticed hunknown
  have hworker : { replicas := { succeeded := 1 } } ∈ noticed.roles.values := by decide +kernel
  have hnone := (((unknown_hides_nothing.1 noticed _).1 hunknown).roles _ hworker).succeeded
  exact absurd hnone (by decide)

end TrainingJobs
