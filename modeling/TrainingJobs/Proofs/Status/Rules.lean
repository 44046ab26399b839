/-
The rules that make a phase of a snapshot, as conditions on the snapshot: each rule gives a report of one phase just
when its condition holds, and the phase is that of the first such rule.

- `failure?_phase`, `success?_phase`, `running?_phase`, `waiting_phase`: one equation for each rule;
- `interpret_phase`: the phase of a snapshot;
- `firstPhase_eq`: which conditions give which phase.
-/
import TrainingJobs.Proofs.Count
import TrainingJobs.Status.Phase

namespace TrainingJobs

/-- the phase of the first rule that applies -/
def firstPhase (failed succeeded running silent : Bool) : Phase :=
  if failed then .failed
  else if succeeded then .succeeded
  else if running then .running
  else if silent then .unknown
  else .queued

theorem firstPhase_eq (failed succeeded running silent : Bool) (phase : Phase) :
    firstPhase failed succeeded running silent = phase ↔
      match phase with
      | .failed => failed
      | .succeeded => !failed && succeeded
      | .running => !failed && !succeeded && running
      | .unknown => !failed && !succeeded && !running && silent
      | .queued => !failed && !succeeded && !running && !silent := by
  cases phase <;> revert failed succeeded running silent <;> decide

/-- a rule gives a report of its phase, or does not apply -/
theorem rule_cases {o : Option PhaseReport} {applies : Bool} {phase : Phase}
    (h : o.map (·.phase) = if applies then some phase else none) :
    (applies = true ∧ ∃ r, o = some r ∧ r.phase = phase) ∨ (applies = false ∧ o = none) := by
  cases applies with
  | true =>
    obtain ⟨r, ho, hr⟩ := Option.map_eq_some_iff.1 h
    exact .inl ⟨rfl, r, ho, hr⟩
  | false => exact .inr ⟨rfl, Option.map_eq_none_iff.1 h⟩

/-! ## The budget -/

/-- Some of the budget is left if there is a limit above the number of failures, of which one counts at least. -/
theorem RunPolicy.budgetRemains_iff (policy : RunPolicy) (failures : UInt32) :
    policy.budgetRemains (max failures 1) = true ↔
      ∃ limit, policy.backoffLimit = some limit ∧ max failures.toNat 1 < limit.toNat := by
  rw [budgetRemains, Option.any_eq_true]
  refine exists_congr fun limit => and_congr_right fun _ => ?_
  rw [decide_eq_true_iff, UInt32.lt_iff_toNat_lt, toNat_max_one]

/-! ## The rules -/

namespace Snapshot

variable (s : Snapshot)

variable {s} in
theorem of_master?_eq_some {e : String × RoleStatus} (h : s.master? = some e) :
    e ∈ s.roles.entries ∧ isMasterRole e.1 = true := by
  rw [master?] at h
  have hrole := List.find?_some h
  exact ⟨List.mem_of_find?_eq_some h, hrole⟩

theorem master?_eq_none_iff : s.master? = none ↔ ∀ e ∈ s.roles.entries, isMasterRole e.1 = false := by
  simp [master?]

/-- the job has failed, or a role has and so many failures use the retry budget up -/
def hasFailed (policy : RunPolicy) (failures : UInt32) : Bool :=
  s.conditions.failed ||
    (s.roles.entries.any fun e => e.2.isFailed) && !policy.budgetRemains (max failures 1)

/-- the job has succeeded, or its master has, or all its roles if it has no master -/
def hasSucceeded : Bool :=
  s.conditions.succeeded || s.master?.elim s.allSucceeded fun e => e.2.hasSucceeded

def isRunning : Bool :=
  (s.roles.entries.any fun e => e.2.isRunning) || s.conditions.running || s.conditions.restarting

variable {s} in
theorem failure?_phase {failures : UInt32} (h : s.failedReplicas = .ok failures) (policy : RunPolicy) :
    ∃ o, s.failure? policy = .ok o ∧
      o.map (·.phase) = if s.hasFailed policy failures then some .failed else none := by
  rw [failure?, hasFailed, ← List.isSome_find?]
  cases s.conditions.failed with
  | true => exact ⟨_, rfl, rfl⟩
  | false =>
    cases s.roles.entries.find? fun e => e.2.isFailed with
    | none => exact ⟨_, rfl, rfl⟩
    | some e =>
      rw [h]
      cases hbudget : policy.budgetRemains (max failures 1) with
      | true => exact ⟨none, if_pos hbudget, rfl⟩
      | false => exact ⟨some _, if_neg (ne_true_of_eq_false hbudget), rfl⟩

theorem success?_phase : s.success?.map (·.phase) = if s.hasSucceeded then some .succeeded else none := by
  rw [success?, hasSucceeded, jobSuccess?]
  cases s.master? with
  | none => cases s.allSucceeded <;> cases s.conditions.succeeded <;> rfl
  | some e => cases hmaster : e.2.hasSucceeded <;> cases s.conditions.succeeded <;> simp [hmaster]

theorem running?_phase : s.running?.map (·.phase) = if s.isRunning then some .running else none := by
  rw [running?, isRunning, ← List.isSome_find?]
  cases s.roles.entries.find? fun e => e.2.isRunning with
  | none => cases s.conditions.running <;> cases s.conditions.restarting <;> rfl
  | some e => rfl

theorem waiting_phase : s.waiting.phase = if s.isSilent then .unknown else .queued := by
  rw [waiting]
  split_ifs <;> rfl

variable {s} in
/-- **The first rule that applies.** A snapshot whose failures have a total has the phase of the first of: a failure, a
success, a role or job that runs, silence. -/
theorem interpret_phase {failures : UInt32} (h : s.failedReplicas = .ok failures) (policy : RunPolicy) :
    ∃ r, s.interpret policy = .ok r ∧
      r.phase = firstPhase (s.hasFailed policy failures) s.hasSucceeded s.isRunning s.isSilent := by
  obtain ⟨o, hfailure, hrule⟩ := failure?_phase h policy
  rw [interpret, hfailure]
  rcases rule_cases hrule with ⟨hfailed, r, rfl, hr⟩ | ⟨hfailed, rfl⟩
  · exact ⟨r, rfl, by rw [hfailed, hr]; rfl⟩
  refine ⟨_, rfl, ?_⟩
  rw [hfailed]
  rcases rule_cases s.success?_phase with ⟨hsucceeded, r, hr, hphase⟩ | ⟨hsucceeded, hnone⟩
  · rw [hsucceeded, hr, Option.some_or, Option.getD_some, hphase]
    rfl
  rcases rule_cases s.running?_phase with ⟨hrunning, r, hr, hphase⟩ | ⟨hrunning, hnone'⟩
  · rw [hsucceeded, hrunning, hnone, hr, Option.none_or, Option.getD_some, hphase]
    rfl
  · rw [hsucceeded, hrunning, hnone, hnone']
    exact s.waiting_phase

end Snapshot

end TrainingJobs
