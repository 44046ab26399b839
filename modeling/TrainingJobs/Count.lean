/-
Counts of 32 bits: those among the integers, and totals of them. A total that does not fit 32 bits has no value; the
computation that needs it stops there.

- `countOf?_eq_some_iff`: which integers are counts;
- `total_eq_ok_iff`: a total is exact whenever there is one.
-/
namespace TrainingJobs

/-- an integer as a count, if it is one -/
def countOf? (n : Int) : Option UInt32 :=
  if 0 ≤ n && n ≤ 4294967295 then some (UInt32.ofNat n.toNat) else none

/-- a total beyond 32 bits -/
structure CountOverflow where
deriving DecidableEq, Repr

/-- the sum of the counts as a natural number -/
def exactTotal (counts : List UInt32) : Nat := counts.foldr (fun n sum => n.toNat + sum) 0

def total (counts : List UInt32) : Except CountOverflow UInt32 :=
  if exactTotal counts < UInt32.size then .ok (UInt32.ofNat (exactTotal counts)) else .error {}

theorem countOf?_eq_some_iff (n : Int) (c : UInt32) : countOf? n = some c ↔ n = (c.toNat : Int) := by
  have hc := c.toNat_lt
  unfold countOf?
  split
  · next h =>
    simp only [Bool.and_eq_true, decide_eq_true_eq] at h
    have hn : n.toNat < UInt32.size := by simp only [UInt32.size]; omega
    rw [Option.some.injEq, ← UInt32.toNat_inj, UInt32.toNat_ofNat_of_lt' hn]
    omega
  · next h =>
    simp only [Bool.and_eq_true, decide_eq_true_eq] at h
    refine ⟨fun h' => (by cases h'), fun h' => absurd ?_ h⟩
    omega

theorem total_eq_ok_iff (counts : List UInt32) (n : UInt32) : total counts = .ok n ↔ exactTotal counts = n.toNat := by
  unfold total
  split
  · next h => rw [Except.ok.injEq, ← UInt32.toNat_inj, UInt32.toNat_ofNat_of_lt' h]
  · next h => exact ⟨fun h' => (by cases h'), fun h' => absurd (h' ▸ n.toNat_lt) h⟩

end TrainingJobs
