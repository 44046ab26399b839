/-
What a snapshot takes over from the operator's status: the conditions that are true and known, and for every replica
type a role of its name in lower case with its counts. Counts are natural numbers here.

- `has_ofOperator`: the conditions of the job;
- `operatorRoles_perm`: the roles, if no two replica types differ in case only;
- `isFailed_ofCounts`, `isRunning_ofCounts`, `hasSucceeded_ofCounts`: the state of a role, by its counts;
- `failedReplicas_ofOperator`: the failures have a total if they fit 32 bits.
-/
import Mathlib
import TrainingJobs.Proofs.Count
import TrainingJobs.Status.Operator
import TrainingJobs.Status.Phase

namespace TrainingJobs

theorem lowerCase_lowerCase (s : String) : lowerCase (lowerCase s) = lowerCase s := by
  rw [lowerCase, lowerCase, String.toList_ofList, List.map_map]
  exact congrArg String.ofList (List.map_congr_left fun c _ => c.toLower_toLower_eq_toLower)

theorem isMasterRole_lowerCase (name : String) : isMasterRole (lowerCase name) = (lowerCase name == masterRole) := by
  rw [isMasterRole, lowerCase_lowerCase]

/-! ## Counts -/

/-- how many replicas a count of the operator stands for; an absent or negative one stands for none -/
def amount (n : Option Int32) : ℕ := (n.elim 0 Int32.toInt).toNat

theorem count_toNat (n : Option Int32) : (OperatorReplicas.count n).toNat = amount n := by
  cases n with
  | none => rfl
  | some n =>
    rw [OperatorReplicas.count]
    split_ifs with hneg
    · exact (Int.toNat_of_nonpos (Int32.lt_iff_toInt_lt.1 hneg).le).symm
    · exact Int32.toNat_toUInt32_of_le (Int32.not_lt.1 hneg)

theorem count_pos_iff (n : Option Int32) : 0 < OperatorReplicas.count n ↔ 0 < amount n := by
  rw [← count_toNat]
  exact UInt32.lt_iff_toNat_lt

namespace RoleStatus

variable (c : ReplicaCounts)

@[simp] theorem replicas_ofCounts : (ofCounts c).replicas = c := rfl

theorem isFailed_ofCounts : (ofCounts c).isFailed = true ↔ 0 < c.failed := by
  rw [isFailed, ofCounts]
  split_ifs <;> simp_all

theorem isRunning_ofCounts : (ofCounts c).isRunning = true ↔ 0 < c.active := by
  rw [isRunning, ofCounts]
  split_ifs <;> simp_all

theorem hasSucceeded_ofCounts :
    (ofCounts c).hasSucceeded = true ↔ 0 < c.succeeded ∧ ¬ 0 < c.active ∧ ¬ 0 < c.failed := by
  rw [hasSucceeded, ofCounts]
  split_ifs <;> simp_all

end RoleStatus

/-! ## Conditions -/

theorem JobCondition.parse?_eq_some_iff (text : String) (kind : JobCondition) :
    parse? text = some kind ↔ text = kind.text := by
  constructor
  · intro h
    exact (beq_iff_eq.1 (List.find?_some (p := (JobCondition.text · == text)) h)).symm
  · rintro rfl
    cases kind <;> rfl

/-- the operator says that the condition of that name is true -/
def OperatorStatus.Holds (status : OperatorStatus) (kind : String) : Prop :=
  ∃ c ∈ status.conditions, c.kind = kind ∧ c.status = "True"

instance (status : OperatorStatus) (kind : String) : Decidable (status.Holds kind) :=
  inferInstanceAs (Decidable (∃ c ∈ status.conditions, _ ∧ _))

namespace Snapshot

theorem has_observe (s : Snapshot) (c : OperatorCondition) (kind : JobCondition) :
    (s.observe c).conditions.has kind = true ↔
      s.conditions.has kind = true ∨ c.kind = kind.text ∧ c.status = "True" := by
  rw [observe]
  by_cases htrue : c.status = "True"
  · rw [if_neg (by simp [OperatorCondition.isTrue, htrue])]
    cases hkind : JobCondition.parse? c.kind with
    | none =>
      have hne : c.kind ≠ kind.text := fun h => by
        rw [(JobCondition.parse?_eq_some_iff _ _).2 h] at hkind
        cases hkind
      simp [hne]
    | some kind' =>
      have hiff : c.kind = kind.text ↔ kind = kind' := by
        rw [← JobCondition.parse?_eq_some_iff, hkind, Option.some.injEq, eq_comm]
      simp [JobConditions.has_insert, hiff, htrue, or_comm]
  · rw [if_pos (by simp [OperatorCondition.isTrue, htrue])]
    simp [htrue]

theorem has_foldl_observe (cs : List OperatorCondition) (s : Snapshot) (kind : JobCondition) :
    (cs.foldl observe s).conditions.has kind = true ↔
      s.conditions.has kind = true ∨ ∃ c ∈ cs, c.kind = kind.text ∧ c.status = "True" := by
  induction cs generalizing s with
  | nil => simp
  | cons c cs ih => rw [List.foldl_cons, ih, has_observe, or_assoc, List.exists_mem_cons_iff]

theorem accepted_foldl_observe (cs : List OperatorCondition) (s : Snapshot) :
    (cs.foldl observe s).accepted = s.accepted := by
  induction cs generalizing s with
  | nil => rfl
  | cons c cs ih =>
    rw [List.foldl_cons, ih, observe]
    split_ifs <;> rfl

variable (job : String) (status : OperatorStatus)

/-- A job of which the operator reports has the conditions that it says are true, and that of having been created. -/
theorem has_ofOperator (kind : JobCondition) :
    (ofOperator job (some status)).conditions.has kind = true ↔ kind = .created ∨ status.Holds kind.text := by
  refine (has_foldl_observe status.conditions (ofAccepted job) kind).trans (or_congr_left ?_)
  cases kind <;> simp [ofAccepted, JobConditions.has]

theorem has_iff_holds (kind : JobCondition) (h : kind ≠ .created) :
    (ofOperator job (some status)).conditions.has kind = true ↔ status.Holds kind.text :=
  (has_ofOperator job status kind).trans (or_iff_right h)

theorem not_isSilent_ofOperator : (ofOperator job (some status)).isSilent = false := by
  have h : (ofOperator job (some status)).accepted = true := accepted_foldl_observe status.conditions (ofAccepted job)
  rw [isSilent, h]
  rfl

/-! ## Roles -/

variable {status}

theorem operatorRoles_perm (h : (status.replicas.names.map lowerCase).Nodup) :
    (operatorRoles status).entries.Perm
      (status.replicas.entries.map fun e => (lowerCase e.1, .ofCounts e.2.counts)) := by
  refine Dict.entries_ofList_perm ?_
  rw [List.map_map]
  rwa [Dict.names, List.map_map] at h

theorem failedReplicas_ofOperator (h : (status.replicas.names.map lowerCase).Nodup)
    (htotal : (status.replicas.values.map fun r => amount r.failed).sum < UInt32.size) :
    ∃ n, (ofOperator job (some status)).failedReplicas = .ok n ∧
      n.toNat = (status.replicas.values.map fun r => amount r.failed).sum := by
  have hperm := ((operatorRoles_perm h).map fun e => e.2.replicas.failed.toNat).sum_eq
  have hamounts : status.replicas.entries.map (fun e => (OperatorReplicas.count e.2.failed).toNat) =
      status.replicas.entries.map fun e => amount e.2.failed :=
    List.map_congr_left fun e _ => count_toNat e.2.failed
  refine ⟨UInt32.ofNat _, (total_eq_ok_iff _ _).2 ?_, UInt32.toNat_ofNat_of_lt' htotal⟩
  rw [UInt32.toNat_ofNat_of_lt' htotal, exactTotal_eq_sum]
  simpa [Dict.values, Function.comp_def, ofOperator, OperatorReplicas.counts, hamounts] using hperm

end Snapshot

end TrainingJobs
