/-
Jobs that wait. Queued is the phase that is left when no rule of failure, success or running applies and yet something is
reported. It ought to mean that no work has begun; here it is said what it does mean.

- `queued_iff`: which snapshots are queued;
- `queued_after_work_iff`: which of them have work behind them: those where some roles are done and others are not, and
  nothing runs;
- `half_done_job_is_queued`: one of these.
-/
import TrainingJobs.Proofs.Status.Budget

namespace TrainingJobs

/-! ## Work of a role -/

namespace RoleStatus

variable (r : RoleStatus)

/-- work of the role is done: it has succeeded, or replicas of it have -/
def HasDoneWork : Prop := r.conditions.succeeded = true ∨ 0 < r.replicas.succeeded

/-- work of the role has begun: it runs, is restarted or has succeeded, or replicas of it are active or have succeeded -/
def HasBegun : Prop :=
  (r.conditions.running = true ∨ r.conditions.restarting = true ∨ 0 < r.replicas.active) ∨ r.HasDoneWork

instance : Decidable r.HasDoneWork := inferInstanceAs (Decidable (_ ∨ _))

instance : Decidable r.HasBegun := inferInstanceAs (Decidable (_ ∨ _))

variable {r}

theorem isRunning_iff :
    r.isRunning = true ↔ r.conditions.running = true ∨ r.conditions.restarting = true ∨ 0 < r.replicas.active := by
  rw [isRunning, Bool.or_eq_true, Bool.or_eq_true, decide_eq_true_iff, or_assoc]

theorem HasDoneWork.not_isSilent (h : r.HasDoneWork) : r.isSilent = false := by
  rw [isSilent, Bool.and_eq_false_iff]
  rcases h with hcondition | hcount
  · have hmem : RoleCondition.succeeded ∈ r.conditions.toList := List.mem_filter.2 ⟨by decide, hcondition⟩
    exact .inl (List.isEmpty_eq_false_iff.2 (List.ne_nil_of_mem hmem))
  · refine .inr (beq_eq_false_iff_ne.2 fun hnone => ?_)
    rw [hnone] at hcount
    cases hcount

end RoleStatus

/-! ## Queued jobs -/

namespace Snapshot

variable (s : Snapshot) (policy : RunPolicy)

theorem isRunning_eq_false_iff : s.isRunning = false ↔
    (∀ r ∈ s.roles.values, r.isRunning = false) ∧ s.conditions.running = false ∧ s.conditions.restarting = false := by
  have hroles : (s.roles.entries.any fun e => e.2.isRunning) = false ↔ ∀ r ∈ s.roles.values, r.isRunning = false := by
    rw [← Bool.not_eq_true, s.any_entries_iff]
    simp
  rw [isRunning, Bool.or_eq_false_iff, Bool.or_eq_false_iff, hroles, and_assoc]

theorem hasSucceeded_eq_false_iff (h : s.roles.values ≠ []) : s.hasSucceeded = false ↔
    s.conditions.succeeded = false ∧ (∀ e, s.master? = some e → e.2.conditions.succeeded = false) ∧
      (s.master? = none → ∃ r ∈ s.roles.values, r.conditions.succeeded = false) := by
  rw [hasSucceeded, Bool.or_eq_false_iff]
  refine and_congr_right fun _ => ?_
  cases s.master? with
  | some e => simp [RoleStatus.hasSucceeded]
  | none =>
    have hsome : s.roles.isEmpty = false := by
      rw [Dict.isEmpty, List.isEmpty_eq_false_iff]
      exact fun hnone => h (by rw [Dict.values, hnone, List.map_nil])
    simp [allSucceeded, hsome, RoleStatus.hasSucceeded]

theorem isSilent_eq_false {r : RoleStatus} (hr : r ∈ s.roles.values) (h : r.isSilent = false) : s.isSilent = false := by
  have hroles : s.roles.values.all RoleStatus.isSilent = false := List.all_eq_false.2 ⟨r, hr, ne_true_of_eq_false h⟩
  rw [isSilent, hroles, Bool.and_false]

theorem queued_iff : (∃ r, s.interpret policy = .ok r ∧ r.phase = .queued) ↔
    ¬ s.Fails policy ∧ s.hasSucceeded = false ∧ s.isRunning = false ∧ s.isSilent = false := by
  constructor
  · rintro ⟨r, hr, hphase⟩
    rw [phase_of_interpret hr, firstPhase_eq] at hphase
    simpa [and_assoc] using hphase
  · rintro ⟨hfails, hsucceeded, hrunning, hsilent⟩
    obtain ⟨r, hr, hphase⟩ := interpret_of_fits (fits_of_not_fails hfails) policy
    refine ⟨r, hr, ?_⟩
    rw [hphase, firstPhase_eq]
    simp [hfails, hsucceeded, hrunning, hsilent]

/-! ## Work before the queue -/

/-- **What queued jobs have behind them.** No role of a queued job runs, is restarted or has active replicas. But work of
it may be done: a job is queued although work of a role has begun just when work of a role is done, nothing has failed
beyond the retries, the job does not report a success, its master has not succeeded, or one of its roles has not if it
has no master, and neither the job nor a role runs or is restarted. -/
theorem queued_after_work_iff :
    (∀ r, s.interpret policy = .ok r → r.phase = .queued → ∀ role ∈ s.roles.values, role.isRunning = false) ∧
    (((∃ r, s.interpret policy = .ok r ∧ r.phase = .queued) ∧ ∃ role ∈ s.roles.values, role.HasBegun) ↔
      (∃ role ∈ s.roles.values, role.HasDoneWork) ∧ ¬ s.Fails policy ∧
      (s.conditions.succeeded = false ∧ (∀ e, s.master? = some e → e.2.conditions.succeeded = false) ∧
        (s.master? = none → ∃ role ∈ s.roles.values, role.conditions.succeeded = false)) ∧
      (∀ role ∈ s.roles.values, role.isRunning = false) ∧ s.conditions.running = false ∧
        s.conditions.restarting = false) := by
  rw [s.queued_iff, ← s.isRunning_eq_false_iff]
  refine ⟨fun r hr hphase => ?_, ?_, ?_⟩
  · obtain ⟨_, _, hrunning, _⟩ := (s.queued_iff policy).1 ⟨r, hr, hphase⟩
    exact (s.isRunning_eq_false_iff.1 hrunning).1
  · rintro ⟨⟨hfails, hsucceeded, hrunning, _⟩, role, hrole, hbegun⟩
    have hidle := (s.isRunning_eq_false_iff.1 hrunning).1 role hrole
    have hdone : role.HasDoneWork := hbegun.resolve_left fun h => by
      rw [RoleStatus.isRunning_iff.2 h] at hidle
      cases hidle
    exact ⟨⟨role, hrole, hdone⟩, hfails, (s.hasSucceeded_eq_false_iff (List.ne_nil_of_mem hrole)).1 hsucceeded, hrunning⟩
  · rintro ⟨⟨role, hrole, hdone⟩, hfails, hsucceeded, hrunning⟩
    have hsucceeded := (s.hasSucceeded_eq_false_iff (List.ne_nil_of_mem hrole)).2 hsucceeded
    exact ⟨⟨hfails, hsucceeded, hrunning, s.isSilent_eq_false hrole hdone.not_isSilent⟩, role, hrole, .inr hdone⟩

/-- a job of which one role is done and the other has not started -/
def halfDone : Snapshot where
  job := "train"
  accepted := true
  roles := .ofList [("evaluator", { conditions := { pending := true } }),
    ("worker", { conditions := { succeeded := true }, replicas := { succeeded := 2 } })]

/-- All replicas of a role have succeeded, and the report is that no role has started. -/
theorem half_done_job_is_queued :
    halfDone.interpret {} = .ok ⟨.queued, some "job accepted, no role started"⟩ ∧
      ∃ role ∈ halfDone.roles.values, role.HasBegun := by
  decide +kernel

end Snapshot

end TrainingJobs
