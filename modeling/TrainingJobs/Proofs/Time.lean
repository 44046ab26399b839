/-
Times as they are written, and timers that keep time. A time that is a whole number of milliseconds and fits a word
comes back from what is written of it. A timer may be exact up to some span only; what is asked of it is stated here,
and not how it works.

- `Duration.ofWord_word_iff`: a time comes back just when it is a whole number of milliseconds and these fit a word;
- `Timer.Keeps`: up to some span no wait ends early, or more than a millisecond late;
- `Timer.Keeps.span_lt_span`: a wait that is longer by a millisecond ends later.
-/
import Mathlib.Tactic
import TrainingJobs.Time

namespace TrainingJobs

/-! ## Times in milliseconds -/

namespace Duration

/-- a whole number of milliseconds that fits a word -/
def IsWhole (d : Duration) : Prop := 1000000 ∣ d.nanoseconds.val ∧ d.milliseconds < 2 ^ 64

theorem milliseconds_ofMilliseconds {n : ℕ} (h : n < 2 ^ 64) : (ofMilliseconds n).milliseconds = n := by
  have hseconds : (UInt64.ofNat (n / 1000)).toNat = n / 1000 :=
    UInt64.toNat_ofNat_of_lt (Nat.lt_of_le_of_lt (Nat.div_le_self _ _) h)
  simp only [milliseconds, ofMilliseconds, hseconds]
  omega

theorem isWhole_ofMilliseconds {n : ℕ} (h : n < 2 ^ 64) : (ofMilliseconds n).IsWhole := by
  refine ⟨⟨n % 1000, mul_comm _ _⟩, ?_⟩
  rwa [milliseconds_ofMilliseconds h]

theorem ofWord_word_iff (d : Duration) : ofWord d.word = d ↔ d.IsWhole := by
  constructor
  · intro h
    rw [← h]
    exact isWhole_ofMilliseconds d.word.toNat_lt
  · rintro ⟨hwhole, hfits⟩
    have hword : d.word.toNat = d.milliseconds := UInt64.toNat_ofNat_of_lt hfits
    have hlt := d.nanoseconds.isLt
    have hseconds : (ofWord d.word).seconds = d.seconds := by
      have hdiv : d.milliseconds / 1000 = d.seconds.toNat := by
        rw [milliseconds]
        omega
      rw [ofWord, ofMilliseconds, hword, hdiv, UInt64.ofNat_toNat]
    have hnanoseconds : (ofWord d.word).nanoseconds = d.nanoseconds := by
      apply Fin.ext
      change d.word.toNat % 1000 * 1000000 = d.nanoseconds.val
      rw [hword, milliseconds]
      omega
    cases d
    exact congr (congrArg Duration.mk hseconds) hnanoseconds

end Duration

/-! ## Timers -/

namespace Timer

/-- Up to `longest` a wait ends with the millisecond in which it is over, and one beyond it lasts as long at least. -/
structure Keeps (t : Timer) (longest : Duration) : Prop where
  not_early : ∀ d, d.total ≤ longest.total → d.total ≤ t.span d * 1000000
  within : ∀ d, d.total ≤ longest.total → t.span d * 1000000 < d.total + 1000000
  beyond : ∀ d, longest.total ≤ d.total → longest.total ≤ t.span d * 1000000

theorem Keeps.span_lt_span {t : Timer} {longest a b : Duration} (h : t.Keeps longest)
    (hab : a.total + 1000000 ≤ b.total) (ha : a.total + 1000000 ≤ longest.total) : t.span a < t.span b := by
  have hfirst : t.span a * 1000000 < a.total + 1000000 := h.within a (by omega)
  have hsecond : a.total + 1000000 ≤ t.span b * 1000000 := by
    rcases Nat.le_total b.total longest.total with hle | hle
    · exact hab.trans (h.not_early b hle)
    · exact ha.trans (h.beyond b hle)
  omega

theorem clock64_span (d : Duration) : clock64.span d =
    if d.total < 18446744073709551616 then (d.total + 999999) / 1000000 else 946080000000 := rfl

/-- the clock of 64 bits keeps time up to the thirty years that stand for what it cannot tell -/
theorem clock64_keeps {longest : Duration} (h : longest.total ≤ 946080000000000000) : clock64.Keeps longest := by
  refine ⟨fun d hd => ?_, fun d hd => ?_, fun d hd => ?_⟩
  · rw [clock64_span, if_pos (by omega)]
    omega
  · rw [clock64_span, if_pos (by omega)]
    omega
  · rw [clock64_span]
    split_ifs <;> omega

/-- what is put off is cut short just when the delay takes longer than the timeout -/
theorem bounded_cut_iff (t : Timer) (delay : Option Duration) (timeout : Duration) :
    (t.bounded delay timeout).cut = true ↔ t.span timeout < t.delay delay := by
  by_cases hle : t.delay delay ≤ t.span timeout
  · simp [bounded, hle]
  · simp [bounded, hle, Nat.lt_of_not_le hle]

end Timer

end TrainingJobs
