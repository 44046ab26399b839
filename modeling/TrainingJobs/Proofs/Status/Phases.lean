/-
The phase of a job in the operator's own terms. Its status is read twice, first into a snapshot and then by the rules of
interpretation; here the phase is said of the conditions and counts that the operator wrote, with nothing in between.

- `hasFailed_iff`, `hasSucceeded_iff`, `isRunning_iff`: each rule, in the operator's terms;
- `status_decides_phase`: the phase of a job whose replica types differ not only in case and whose failures fit 32 bits.
-/
import TrainingJobs.Proofs.Status.Operator
import TrainingJobs.Proofs.Status.Rules

namespace TrainingJobs.Phases

/-! ## The rules as the operator would say them -/

/-- failed replicas of all types together -/
def failedTotal (status : OperatorStatus) : ℕ := (status.replicas.values.map fun r => amount r.failed).sum

/-- replicas of a type have succeeded, and none is active or failed -/
def Done (r : OperatorReplicas) : Prop := 0 < amount r.succeeded ∧ amount r.active = 0 ∧ amount r.failed = 0

/-- the job has failed for good -/
def Fails (status : OperatorStatus) (policy : RunPolicy) : Prop :=
  status.Holds "Failed" ∨
  (∃ r ∈ status.replicas.values, 0 < amount r.failed) ∧
    ∀ limit ∈ policy.backoffLimit, ¬ failedTotal status < limit.toNat

def Succeeds (status : OperatorStatus) : Prop :=
  status.Holds "Succeeded" ∨
  (∃ e ∈ status.replicas.entries, lowerCase e.1 = "master" ∧ Done e.2) ∨
  (∀ e ∈ status.replicas.entries, lowerCase e.1 ≠ "master") ∧ status.replicas.entries ≠ [] ∧
    ∀ e ∈ status.replicas.entries, Done e.2

def Runs (status : OperatorStatus) : Prop :=
  (∃ r ∈ status.replicas.values, 0 < amount r.active) ∨ status.Holds "Running" ∨ status.Holds "Restarting"

instance (r : OperatorReplicas) : Decidable (Done r) := inferInstanceAs (Decidable (_ ∧ _))

-- counts are finitely many, so the limits would be searched through if the instance were left to be found
instance (status : OperatorStatus) (policy : RunPolicy) : Decidable (Fails status policy) :=
  have : Decidable (∀ limit ∈ policy.backoffLimit, ¬ failedTotal status < limit.toNat) :=
    Option.decidableForallMem _
  inferInstanceAs (Decidable (_ ∨ _ ∧ _))

instance (status : OperatorStatus) : Decidable (Succeeds status) := inferInstanceAs (Decidable (_ ∨ _))

instance (status : OperatorStatus) : Decidable (Runs status) := inferInstanceAs (Decidable (_ ∨ _))

/-! ## The rules as they are -/

theorem hasSucceeded_iff_done (r : OperatorReplicas) : (RoleStatus.ofCounts r.counts).hasSucceeded = true ↔ Done r := by
  have hzero (n : Option Int32) : ¬ 0 < OperatorReplicas.count n ↔ amount n = 0 := by
    rw [count_pos_iff, Nat.pos_iff_ne_zero, not_not]
  exact (RoleStatus.hasSucceeded_ofCounts r.counts).trans
    (and_congr (count_pos_iff r.succeeded) (and_congr (hzero r.active) (hzero r.failed)))

section

variable (job : String) {status : OperatorStatus} (hnames : (status.replicas.names.map lowerCase).Nodup)
include hnames

theorem mem_roles_iff (e : String × RoleStatus) :
    e ∈ (Snapshot.ofOperator job (some status)).roles.entries ↔
      ∃ x ∈ status.replicas.entries, (lowerCase x.1, RoleStatus.ofCounts x.2.counts) = e :=
  (Snapshot.operatorRoles_perm hnames).mem_iff.trans List.mem_map

theorem any_roles_iff {p : RoleStatus → Bool} {q : OperatorReplicas → Prop}
    (hp : ∀ r : OperatorReplicas, p (.ofCounts r.counts) = true ↔ q r) :
    ((Snapshot.ofOperator job (some status)).roles.entries.any fun e => p e.2) = true ↔
      ∃ r ∈ status.replicas.values, q r := by
  rw [List.any_eq_true]
  constructor
  · rintro ⟨e, he, hpe⟩
    obtain ⟨x, hx, rfl⟩ := (mem_roles_iff job hnames e).1 he
    exact ⟨x.2, List.mem_map_of_mem hx, (hp x.2).1 hpe⟩
  · rintro ⟨r, hr, hq⟩
    obtain ⟨x, hx, rfl⟩ := List.mem_map.1 hr
    exact ⟨_, (mem_roles_iff job hnames _).2 ⟨x, hx, rfl⟩, (hp x.2).2 hq⟩

theorem hasFailed_iff {n : UInt32} (hn : n.toNat = failedTotal status) (policy : RunPolicy) :
    (Snapshot.ofOperator job (some status)).hasFailed policy n = true ↔ Fails status policy := by
  have hroles := any_roles_iff job hnames fun r =>
    (RoleStatus.isFailed_ofCounts r.counts).trans (count_pos_iff r.failed)
  have hfailed : (Snapshot.ofOperator job (some status)).conditions.failed = true ↔ status.Holds "Failed" :=
    Snapshot.has_iff_holds job status .failed nofun
  rw [Snapshot.hasFailed, Bool.or_eq_true, Bool.and_eq_true, hroles, hfailed, Fails, Bool.not_eq_true',
    ← Bool.not_eq_true, policy.budgetRemains_iff]
  refine or_congr_right (and_congr_right ?_)
  rintro ⟨r, hr, hpos⟩
  -- a failed replica is one of the failures, so they are what is held against the budget
  have hle : amount r.failed ≤ failedTotal status := List.le_sum_of_mem (List.mem_map_of_mem hr)
  rw [hn, max_eq_left (Nat.succ_le_of_lt (hpos.trans_le hle)), not_exists]
  exact forall_congr' fun _ => not_and

theorem allSucceeded_iff : (Snapshot.ofOperator job (some status)).allSucceeded = true ↔
    status.replicas.entries ≠ [] ∧ ∀ e ∈ status.replicas.entries, Done e.2 := by
  have hlength := (Snapshot.operatorRoles_perm hnames).length_eq.trans (List.length_map _)
  have hempty : (Snapshot.ofOperator job (some status)).roles.isEmpty = false ↔ status.replicas.entries ≠ [] := by
    rw [Dict.isEmpty, List.isEmpty_eq_false_iff, ← List.length_pos_iff, ← List.length_pos_iff]
    exact iff_of_eq (congrArg _ hlength)
  rw [Snapshot.allSucceeded, Bool.and_eq_true, Bool.not_eq_true', hempty, List.all_eq_true]
  refine and_congr_right fun _ => ⟨fun h x hx => ?_, fun h r hr => ?_⟩
  · have hrole := (mem_roles_iff job hnames _).2 ⟨x, hx, rfl⟩
    exact (hasSucceeded_iff_done x.2).1 (h _ (List.mem_map_of_mem hrole))
  · obtain ⟨e, he, rfl⟩ := List.mem_map.1 hr
    obtain ⟨x, hx, rfl⟩ := (mem_roles_iff job hnames e).1 he
    exact (hasSucceeded_iff_done x.2).2 (h x hx)

/-- A job with a master succeeds with it, and one without a master succeeds with all its replica types. -/
theorem master_iff :
    ((Snapshot.ofOperator job (some status)).master?.elim (Snapshot.ofOperator job (some status)).allSucceeded
        fun e => e.2.hasSucceeded) = true ↔
      (∃ e ∈ status.replicas.entries, lowerCase e.1 = "master" ∧ Done e.2) ∨
      (∀ e ∈ status.replicas.entries, lowerCase e.1 ≠ "master") ∧ status.replicas.entries ≠ [] ∧
        ∀ e ∈ status.replicas.entries, Done e.2 := by
  have hmem := mem_roles_iff job hnames
  have hname (x : String × OperatorReplicas) : isMasterRole (lowerCase x.1) = true ↔ lowerCase x.1 = "master" := by
    rw [isMasterRole_lowerCase, beq_iff_eq, masterRole]
  cases hmaster : (Snapshot.ofOperator job (some status)).master? with
  | none =>
    have hno : ∀ x ∈ status.replicas.entries, lowerCase x.1 ≠ "master" := fun x hx h => by
      have hrole := (Snapshot.master?_eq_none_iff _).1 hmaster _ ((hmem _).2 ⟨x, hx, rfl⟩)
      rw [(hname x).2 h] at hrole
      cases hrole
    rw [Option.elim_none, allSucceeded_iff job hnames]
    refine ⟨fun h => .inr ⟨hno, h⟩, ?_⟩
    rintro (⟨x, hx, hx', _⟩ | ⟨_, h⟩)
    · exact absurd hx' (hno x hx)
    · exact h
  | some e =>
    obtain ⟨he, hrole⟩ := Snapshot.of_master?_eq_some hmaster
    obtain ⟨x, hx, rfl⟩ := (hmem e).1 he
    have hx' : lowerCase x.1 = "master" := (hname x).1 hrole
    rw [Option.elim_some, hasSucceeded_iff_done]
    refine ⟨fun h => .inl ⟨x, hx, hx', h⟩, ?_⟩
    rintro (⟨y, hy, hy', hdone⟩ | ⟨hno, _⟩)
    · have hsame : y = x := by
        rw [Dict.names, List.map_map] at hnames
        exact List.inj_on_of_nodup_map hnames hy hx (hy'.trans hx'.symm)
      exact hsame ▸ hdone
    · exact absurd hx' (hno x hx)

theorem hasSucceeded_iff : (Snapshot.ofOperator job (some status)).hasSucceeded = true ↔ Succeeds status := by
  have hsucceeded : (Snapshot.ofOperator job (some status)).conditions.succeeded = true ↔ status.Holds "Succeeded" :=
    Snapshot.has_iff_holds job status .succeeded nofun
  rw [Snapshot.hasSucceeded, Bool.or_eq_true, hsucceeded, master_iff job hnames]
  rfl

theorem isRunning_iff : (Snapshot.ofOperator job (some status)).isRunning = true ↔ Runs status := by
  have hroles := any_roles_iff job hnames fun r =>
    (RoleStatus.isRunning_ofCounts r.counts).trans (count_pos_iff r.active)
  have hrunning : (Snapshot.ofOperator job (some status)).conditions.running = true ↔ status.Holds "Running" :=
    Snapshot.has_iff_holds job status .running nofun
  have hrestarting : (Snapshot.ofOperator job (some status)).conditions.restarting = true ↔
      status.Holds "Restarting" := Snapshot.has_iff_holds job status .restarting nofun
  rw [Snapshot.isRunning, Bool.or_eq_true, Bool.or_eq_true, hroles, hrunning, hrestarting, or_assoc]
  rfl

end

/-! ## The phase -/

theorem interpret_ofOperator (job : String) (policy : RunPolicy) {status : OperatorStatus}
    (hnames : (status.replicas.names.map lowerCase).Nodup) (htotal : failedTotal status < UInt32.size) :
    ∃ r, (Snapshot.ofOperator job (some status)).interpret policy = .ok r ∧
      r.phase =
        firstPhase (decide (Fails status policy)) (decide (Succeeds status)) (decide (Runs status)) false := by
  obtain ⟨n, hn, htotal⟩ := Snapshot.failedReplicas_ofOperator job hnames htotal
  have hfailed := hasFailed_iff job hnames htotal policy
  have hsucceeded := hasSucceeded_iff job hnames
  have hrunning := isRunning_iff job hnames
  obtain ⟨r, hr, hphase⟩ := Snapshot.interpret_phase hn policy
  refine ⟨r, hr, ?_⟩
  rw [hphase, Snapshot.not_isSilent_ofOperator]
  simp only [← hfailed, ← hsucceeded, ← hrunning, Bool.decide_eq_true]

/-- Which conditions are listed matters, not in which order or how often. -/
theorem holds_congr {status : OperatorStatus} {conditions : List OperatorCondition}
    (h : ∀ c, c ∈ conditions ↔ c ∈ status.conditions) (kind : String) :
    OperatorStatus.Holds { status with conditions } kind ↔ status.Holds kind := by
  simp only [OperatorStatus.Holds, h]

/-- **The operator's status decides the phase.** Let no two replica types differ in case only, and let the failed
replicas of all types be fewer than 2^32. Then the phase of the job is failed if the operator says so, or if a type has
failed replicas and no retry limit is above their total; otherwise succeeded if the operator says so, or the master is
done, or there is no master and all types are done, of which there is one; otherwise running if a type has active
replicas or the operator says that the job runs or restarts; otherwise queued. It is never unknown, and it stays when
conditions are repeated or put in another order. -/
theorem status_decides_phase (job : String) (policy : RunPolicy) (status : OperatorStatus)
    (hnames : (status.replicas.names.map lowerCase).Nodup) (htotal : failedTotal status < 2 ^ 32) :
    ∃ r, (Snapshot.ofOperator job (some status)).interpret policy = .ok r ∧
      (r.phase = .failed ↔ Fails status policy) ∧
      (r.phase = .succeeded ↔ ¬ Fails status policy ∧ Succeeds status) ∧
      (r.phase = .running ↔ ¬ Fails status policy ∧ ¬ Succeeds status ∧ Runs status) ∧
      (r.phase = .queued ↔ ¬ Fails status policy ∧ ¬ Succeeds status ∧ ¬ Runs status) ∧
      r.phase ≠ .unknown ∧
      ∀ conditions, (∀ c, c ∈ conditions ↔ c ∈ status.conditions) →
        ∃ r', (Snapshot.ofOperator job (some { status with conditions })).interpret policy = .ok r' ∧
          r'.phase = r.phase := by
  obtain ⟨r, hr, hphase⟩ := interpret_ofOperator job policy hnames htotal
  refine ⟨r, hr, ?_, ?_, ?_, ?_, ?_, fun conditions hsame => ?_⟩
  · rw [hphase, firstPhase_eq, decide_eq_true_iff]
  · rw [hphase, firstPhase_eq]
    simp
  · rw [hphase, firstPhase_eq]
    simp [and_assoc]
  · rw [hphase, firstPhase_eq]
    simp [and_assoc]
  · rw [hphase, Ne, firstPhase_eq]
    simp
  · let status' : OperatorStatus := { status with conditions }
    have hfails : Fails status' policy ↔ Fails status policy := or_congr_left (holds_congr hsame _)
    have hsucceeds : Succeeds status' ↔ Succeeds status := or_congr_left (holds_congr hsame _)
    have hruns : Runs status' ↔ Runs status := or_congr_right (or_congr (holds_congr hsame _) (holds_congr hsame _))
    have hnames' : (status'.replicas.names.map lowerCase).Nodup := hnames
    obtain ⟨r', hr', hphase'⟩ := interpret_ofOperator job policy hnames' htotal
    refine ⟨r', hr', ?_⟩
    rw [hphase, hphase', decide_eq_decide.2 hfails, decide_eq_decide.2 hsucceeds, decide_eq_decide.2 hruns]

/-- a job whose master is done while a worker still runs and another has failed, within the retries -/
theorem master_done_first :
    let status : OperatorStatus :=
      { conditions := [⟨"Running", "True", none, none⟩, ⟨"Failed", "False", none, none⟩]
        replicas := .ofList [("Master", { succeeded := some 1, active := some (-1) }),
          ("Worker", { active := some 1, failed := some 1 })] }
    ((status.replicas.names.map lowerCase).Nodup ∧ failedTotal status < 2 ^ 32) ∧
      ∃ r, (Snapshot.ofOperator "train" (some status)).interpret { backoffLimit := some 2 } = .ok r ∧
        r.phase = .succeeded := by
  intro status
  have hnames : (status.replicas.names.map lowerCase).Nodup := by decide +kernel
  have htotal : failedTotal status < 2 ^ 32 := by decide +kernel
  obtain ⟨r, hr, _, hsucceeded, _⟩ := status_decides_phase "train" { backoffLimit := some 2 } status hnames htotal
  exact ⟨⟨hnames, htotal⟩, r, hr, hsucceeded.2 (by decide +kernel)⟩

end TrainingJobs.Phases
