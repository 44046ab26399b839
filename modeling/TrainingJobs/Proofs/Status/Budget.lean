/-
Failures against the retry budget. A report may need the total of the failed replicas of all roles, which has 32 bits;
here they are counted as they are, and both what is reported and whether there is a report is said of that number.

- `failure?_eq_none_iff`: when the rule of failure does not apply;
- `interpret_isOk_iff`: which snapshots have a report;
- `phase_of_interpret`: the phase of a report, by the exact number of failures;
- `Fails.mono`: a failure stays one while more replicas fail;
- `failed_by_exact_total`: all of it, for every snapshot and run policy;
- `losses_beyond_a_word`: a snapshot that has no report.
-/
import Mathlib.Tactic
import TrainingJobs.Proofs.Status.Rules

namespace TrainingJobs

/-! ## Counting failures -/

namespace Snapshot

variable (s : Snapshot) (policy : RunPolicy)

/-- failed replicas of all roles, as many as there are -/
def failures : ℕ := (s.roles.values.map fun r => r.replicas.failed.toNat).sum

/-- the limit on retries is above the number of failures, of which one counts at least -/
def RetriesLeft : Prop := ∃ limit ∈ policy.backoffLimit, max 1 s.failures < limit.toNat

/-- the job has failed, or a role has and no retries are left -/
def Fails : Prop :=
  s.conditions.failed = true ∨ (∃ r ∈ s.roles.values, r.isFailed = true) ∧ ¬ s.RetriesLeft policy

instance : Decidable (s.RetriesLeft policy) := inferInstanceAs (Decidable (∃ limit ∈ policy.backoffLimit, _))

instance : Decidable (s.Fails policy) := inferInstanceAs (Decidable (_ ∨ _))

theorem failedReplicas_eq_ok_iff (n : UInt32) : s.failedReplicas = .ok n ↔ s.failures = n.toNat := by
  rw [failedReplicas, total_eq_ok_iff, exactTotal_eq_sum, List.map_map]
  rfl

theorem any_entries_iff (p : RoleStatus → Bool) :
    (s.roles.entries.any fun e => p e.2) = true ↔ ∃ r ∈ s.roles.values, p r = true := by
  rw [Dict.values, ← List.any_eq_true, List.any_map]
  rfl

variable {s policy}

theorem failures_eq_zero (h : ¬ ∃ r ∈ s.roles.values, r.isFailed = true) : s.failures = 0 := by
  refine List.sum_eq_zero fun n hn => ?_
  obtain ⟨r, hr, rfl⟩ := List.mem_map.1 hn
  have hfailed : r.isFailed = false := Bool.eq_false_iff.2 fun hfailed => h ⟨r, hr, hfailed⟩
  have hnone : ¬ r.replicas.failed > 0 := of_decide_eq_false (Bool.or_eq_false_iff.1 hfailed).2
  exact Nat.eq_zero_of_not_pos fun hpos => hnone (UInt32.lt_iff_toNat_lt.2 hpos)

theorem hasFailed_iff_fails {n : UInt32} (hn : s.failures = n.toNat) :
    s.hasFailed policy n = true ↔ s.Fails policy := by
  rw [hasFailed, Bool.or_eq_true, Bool.and_eq_true, any_entries_iff, Bool.not_eq_true', ← Bool.not_eq_true,
    policy.budgetRemains_iff, ← hn, max_comm]
  rfl

/-- A limit that is above the failures has 32 bits, so that they have a total. -/
theorem fits_of_not_fails (h : ¬ s.Fails policy) : s.failures < UInt32.size := by
  by_cases hrole : ∃ r ∈ s.roles.values, r.isFailed = true
  · have hleft : s.RetriesLeft policy := by
      by_contra hspent
      exact h (.inr ⟨hrole, hspent⟩)
    obtain ⟨limit, _, hlt⟩ := hleft
    exact ((le_max_right 1 s.failures).trans_lt hlt).trans limit.toNat_lt
  · rw [failures_eq_zero hrole]
    decide

/-! ## The rule of failure -/

theorem eq_toNat_of_fits (h : s.failures < UInt32.size) : s.failures = (UInt32.ofNat s.failures).toNat :=
  (UInt32.toNat_ofNat_of_lt' h).symm

theorem failure?_of_fits (h : s.failures < UInt32.size) (policy : RunPolicy) :
    ∃ o, s.failure? policy = .ok o ∧ o.map (·.phase) = if s.Fails policy then some .failed else none := by
  have hn := eq_toNat_of_fits h
  obtain ⟨o, ho, hrule⟩ := failure?_phase ((s.failedReplicas_eq_ok_iff _).2 hn) policy
  refine ⟨o, ho, ?_⟩
  rw [hrule]
  simp only [hasFailed_iff_fails hn]

/-- A total that does not fit its 32 bits ends the interpretation, unless the job itself has failed. -/
theorem failure?_of_overflow (hjob : s.conditions.failed = false) (h : UInt32.size ≤ s.failures)
    (policy : RunPolicy) : s.failure? policy = .error {} := by
  have htotal : s.failedReplicas = .error {} := by
    cases hn : s.failedReplicas with
    | error => rfl
    | ok n => exact absurd n.toNat_lt (not_lt.2 (((s.failedReplicas_eq_ok_iff n).1 hn) ▸ h))
  have hrole : ∃ r ∈ s.roles.values, r.isFailed = true := by
    by_contra hno
    rw [failures_eq_zero hno] at h
    cases h
  rw [← s.any_entries_iff, ← List.isSome_find?] at hrole
  obtain ⟨e, he⟩ := Option.isSome_iff_exists.1 hrole
  rw [failure?, if_neg (ne_true_of_eq_false hjob), he]
  simp only [htotal]
  rfl

theorem failure?_eq_none_iff : s.failure? policy = .ok none ↔ ¬ s.Fails policy := by
  rcases lt_or_ge s.failures UInt32.size with hfits | hover
  · obtain ⟨o, ho, hrule⟩ := failure?_of_fits hfits policy
    rw [ho, Except.ok.injEq, ← Option.map_eq_none_iff, hrule]
    split_ifs with hfails <;> simp [hfails]
  · refine iff_of_false (fun hnone => ?_) fun hfails => absurd (fits_of_not_fails hfails) (not_lt.2 hover)
    cases hjob : s.conditions.failed with
    | true =>
      rw [failure?, if_pos hjob] at hnone
      cases hnone
    | false =>
      rw [failure?_of_overflow hjob hover] at hnone
      cases hnone

/-! ## Reports -/

theorem interpret_of_failed (h : s.conditions.failed = true) (policy : RunPolicy) :
    s.interpret policy = .ok ⟨.failed, some (s.message.getD "job reported failed")⟩ := by
  rw [interpret, failure?, if_pos h]
  rfl

theorem interpret_of_not_fails (h : ¬ s.Fails policy) :
    s.interpret policy = .ok ((s.success?.or s.running?).getD s.waiting) := by
  rw [interpret, failure?_eq_none_iff.2 h]
  rfl

theorem interpret_of_fits (h : s.failures < UInt32.size) (policy : RunPolicy) :
    ∃ r, s.interpret policy = .ok r ∧
      r.phase = firstPhase (decide (s.Fails policy)) s.hasSucceeded s.isRunning s.isSilent := by
  have hn := eq_toNat_of_fits h
  obtain ⟨r, hr, hphase⟩ := interpret_phase ((s.failedReplicas_eq_ok_iff _).2 hn) policy
  refine ⟨r, hr, ?_⟩
  rw [hphase, Bool.eq_iff_iff.2 ((hasFailed_iff_fails hn).trans decide_eq_true_iff.symm)]

theorem interpret_of_overflow (hjob : s.conditions.failed = false) (h : UInt32.size ≤ s.failures)
    (policy : RunPolicy) : s.interpret policy = .error {} := by
  rw [interpret, failure?_of_overflow hjob h]
  rfl

variable (s policy)

theorem interpret_isOk_iff :
    (∃ r, s.interpret policy = .ok r) ↔ s.conditions.failed = true ∨ s.failures < UInt32.size := by
  constructor
  · rintro ⟨r, hr⟩
    by_contra hno
    obtain ⟨hjob, hover⟩ := not_or.1 hno
    rw [interpret_of_overflow (Bool.eq_false_iff.2 hjob) (not_lt.1 hover)] at hr
    cases hr
  · rintro (hjob | hfits)
    · exact ⟨_, interpret_of_failed hjob policy⟩
    · obtain ⟨r, hr, _⟩ := interpret_of_fits hfits policy
      exact ⟨r, hr⟩

variable {s policy}

theorem phase_of_interpret {r : PhaseReport} (h : s.interpret policy = .ok r) :
    r.phase = firstPhase (decide (s.Fails policy)) s.hasSucceeded s.isRunning s.isSilent := by
  rcases (s.interpret_isOk_iff policy).1 ⟨r, h⟩ with hjob | hfits
  · rw [interpret_of_failed hjob] at h
    cases h
    rw [decide_eq_true (.inl hjob)]
    rfl
  · obtain ⟨r', hr', hphase⟩ := interpret_of_fits hfits policy
    rw [hr'] at h
    cases h
    exact hphase

end Snapshot

/-! ## More failures -/

/-- the other state of a role is no better as far as failures go -/
def RoleStatus.Worsens (r r' : RoleStatus) : Prop :=
  (r.conditions.failed = true → r'.conditions.failed = true) ∧ r.replicas.failed ≤ r'.replicas.failed

theorem RoleStatus.Worsens.isFailed {r r' : RoleStatus} (h : r.Worsens r') (hr : r.isFailed = true) :
    r'.isFailed = true := by
  rw [RoleStatus.isFailed, Bool.or_eq_true, decide_eq_true_iff] at hr ⊢
  exact hr.imp h.1 fun hpos => UInt32.lt_of_lt_of_le hpos h.2

theorem Dict.forall₂_values_insert {α : Type*} {R : α → α → Prop} (hrefl : ∀ a, R a a) {d : Dict α} {name : String}
    {old value : α} (h : d.find? name = some old) (hR : R old value) :
    List.Forall₂ R d.values (d.insert name value).values := by
  rw [values, values, entries_insert_of_find? h, List.map_map, List.forall₂_map_left_iff, List.forall₂_map_right_iff,
    List.forall₂_same]
  intro e he
  by_cases hname : e.1 = name
  · have hold : some old = some e.2 := by
      rw [← h, ← hname]
      exact (d.find?_eq_some_iff e.1 e.2).2 he
    simpa [hname, ← Option.some.inj hold] using hR
  · simpa [hname] using hrefl e.2

namespace Snapshot

variable {s s' : Snapshot} {policy : RunPolicy}

theorem failures_le (h : List.Forall₂ RoleStatus.Worsens s.roles.values s'.roles.values) : s.failures ≤ s'.failures := by
  refine List.Forall₂.sum_le_sum ?_
  rw [List.forall₂_map_left_iff, List.forall₂_map_right_iff]
  exact h.imp fun _ _ hr => UInt32.le_iff_toNat_le.1 hr.2

/-- What counts as a failure still does when roles are worse off. -/
theorem Fails.mono (hroles : List.Forall₂ RoleStatus.Worsens s.roles.values s'.roles.values)
    (hjob : s'.conditions.failed = s.conditions.failed) (h : s.Fails policy) : s'.Fails policy := by
  rcases h with h | ⟨⟨r, hr, hfailed⟩, hspent⟩
  · exact .inl (hjob.trans h)
  · obtain ⟨i, hi, rfl⟩ := List.getElem_of_mem hr
    have hi' : i < s'.roles.values.length := hroles.length_eq ▸ hi
    have hworse : s.roles.values[i].Worsens s'.roles.values[i] := hroles.get hi hi'
    refine .inr ⟨⟨s'.roles.values[i], List.getElem_mem hi', hworse.isFailed hfailed⟩, ?_⟩
    rintro ⟨limit, hlimit, hlt⟩
    exact hspent ⟨limit, hlimit, (max_le_max_left 1 (failures_le hroles)).trans_lt hlt⟩

/-- the snapshot with another count of failed replicas of a role -/
def recount (s : Snapshot) (name : String) (role : RoleStatus) (count : UInt32) : Snapshot :=
  { s with roles := s.roles.insert name { role with replicas := { role.replicas with failed := count } } }

theorem Fails.recount {name : String} {role : RoleStatus} {count : UInt32} (hrole : s.roles.find? name = some role)
    (hcount : role.replicas.failed ≤ count) (h : s.Fails policy) : (s.recount name role count).Fails policy := by
  have hroles : List.Forall₂ RoleStatus.Worsens s.roles.values (s.recount name role count).roles.values :=
    Dict.forall₂_values_insert (fun _ => ⟨id, UInt32.le_refl _⟩) hrole ⟨id, hcount⟩
  exact h.mono hroles rfl

/-! ## The verdict -/

/-- **Failures are judged by their exact number.** A snapshot has a report just when its job has failed or the failed
replicas of all its roles are fewer than 2^32. The report is one of failure just when the job has failed, or a role has
and no limit on retries is above the number of failures, of which one counts at least. It stays one of failure if more
replicas of a role fail, as long as there is a report. -/
theorem failed_by_exact_total (s : Snapshot) (policy : RunPolicy) :
    ((∃ r, s.interpret policy = .ok r) ↔ s.conditions.failed = true ∨ s.failures < 2 ^ 32) ∧
    (∀ r, s.interpret policy = .ok r →
      (r.phase = .failed ↔ s.conditions.failed = true ∨
        (∃ role ∈ s.roles.values, role.isFailed = true) ∧
          ¬ ∃ limit, policy.backoffLimit = some limit ∧ max 1 s.failures < limit.toNat)) ∧
    ∀ name role count, s.roles.find? name = some role → role.replicas.failed ≤ count →
      ∀ r r', s.interpret policy = .ok r → r.phase = .failed →
        (s.recount name role count).interpret policy = .ok r' → r'.phase = .failed := by
  have hfails {s : Snapshot} {r : PhaseReport} (h : s.interpret policy = .ok r) :
      r.phase = .failed ↔ s.Fails policy := by
    rw [phase_of_interpret h, firstPhase_eq, decide_eq_true_iff]
  refine ⟨s.interpret_isOk_iff policy, fun r hr => hfails hr, ?_⟩
  intro name role count hrole hcount r r' hr hphase hr'
  exact (hfails hr').2 (((hfails hr).1 hphase).recount hrole hcount)

/-- two roles whose failed replicas together are one more than 32 bits can tell -/
def heavyLosses : Snapshot where
  job := "train"
  accepted := true
  roles := .ofList [("ps", { replicas := { failed := 4294967295 } }), ("worker", { replicas := { failed := 1 } })]

/-- The failures exceed the limit of two retries, and yet there is no report. -/
theorem losses_beyond_a_word :
    heavyLosses.conditions.failed = false ∧ heavyLosses.failures = 2 ^ 32 ∧
      heavyLosses.Fails { backoffLimit := some 2 } ∧
      heavyLosses.interpret { backoffLimit := some 2 } = .error {} := by
  decide +kernel

end Snapshot

end TrainingJobs
