/-
Counts as natural numbers.

- `exactTotal_eq_sum`: a total is a sum;
- `toNat_max_one`: a count raised to one.
-/
import Mathlib.Tactic
import TrainingJobs.Count

namespace TrainingJobs

theorem exactTotal_eq_sum (counts : List UInt32) : exactTotal counts = (counts.map UInt32.toNat).sum := by
  induction counts with
  | nil => rfl
  | cons n rest ih => rw [List.map_cons, List.sum_cons, ← ih]; rfl

theorem toNat_max_one (n : UInt32) : (max n 1).toNat = max n.toNat 1 := by
  have hmax : max n 1 = if n ≤ 1 then 1 else n := rfl
  have hle : n ≤ 1 ↔ n.toNat ≤ 1 := UInt32.le_iff_toNat_le
  rw [hmax]
  split_ifs with h
  · exact (max_eq_right (hle.1 h)).symm
  · exact (max_eq_left (Nat.le_of_not_le (mt hle.2 h))).symm

end TrainingJobs
