/-
Counts as they are written. A run of ASCII digits spells a number, place by place and with as many zeros in front as one
likes; a count is spelled by such a run, with one plus sign in front or none; and a text holds a count if it is spelled
there with nothing but blanks around it. What the readers accept is just that.

- `trim_of_blanks`: a text without blanks is left when the blanks around it are taken off;
- `natural?_eq_some_iff`, `count?_eq_some_iff`: which texts are read as a number and which as a count;
- `count?_trim_eq_some_iff`: which texts hold a count.
-/
import Mathlib.Data.List.TakeWhile
import Mathlib.Tactic
import TrainingJobs.Text.Blank
import TrainingJobs.Text.Numeral

namespace TrainingJobs.Text

/-! ## Blanks around a text -/

theorem dropWhile_isBlank {cs : List Char} (h : ∀ c ∈ cs, isBlank c = false) : cs.dropWhile isBlank = cs := by
  cases cs with
  | nil => rfl
  | cons c rest => exact List.dropWhile_cons_of_neg (by simp [h c List.mem_cons_self])

/-- the blanks around a text that has none go, whatever they are -/
theorem trim_of_blanks {before cs after : List Char} (hbefore : ∀ c ∈ before, isBlank c = true)
    (hcs : ∀ c ∈ cs, isBlank c = false) (hafter : ∀ c ∈ after, isBlank c = true) :
    trim (before ++ cs ++ after) = cs := by
  have hend : ∀ c ∈ after.reverse, isBlank c = true := fun c hc => hafter c (List.mem_reverse.1 hc)
  have hreverse : ∀ c ∈ cs.reverse, isBlank c = false := fun c hc => hcs c (List.mem_reverse.1 hc)
  have hstart : trimStart (before ++ cs ++ after) = cs ++ after ∨ cs = [] ∧ trimStart (before ++ cs ++ after) = [] := by
    rw [trimStart, List.append_assoc, List.dropWhile_append_of_pos hbefore]
    cases cs with
    | nil => exact .inr ⟨rfl, List.dropWhile_eq_nil_iff.2 hafter⟩
    | cons c rest => exact .inl (List.dropWhile_cons_of_neg (by simp [hcs c List.mem_cons_self]))
  rcases hstart with hstart | ⟨rfl, hstart⟩
  · rw [trim, hstart, trimEnd, List.reverse_append, List.dropWhile_append_of_pos hend, dropWhile_isBlank hreverse,
      List.reverse_reverse]
  · rw [trim, hstart]
    rfl

theorem trim_of_not_blanks {cs : List Char} (h : ∀ c ∈ cs, isBlank c = false) : trim cs = cs := by
  simpa using @trim_of_blanks [] cs [] (by simp) h (by simp)

/-- nothing but blanks is taken off -/
theorem exists_trim_eq (cs : List Char) : ∃ before after, cs = before ++ trim cs ++ after ∧
    (∀ c ∈ before, isBlank c = true) ∧ ∀ c ∈ after, isBlank c = true := by
  have hend : trimStart cs = trim cs ++ ((trimStart cs).reverse.takeWhile isBlank).reverse := by
    rw [trim, trimEnd, ← List.reverse_append, List.takeWhile_append_dropWhile, List.reverse_reverse]
  refine ⟨cs.takeWhile isBlank, ((trimStart cs).reverse.takeWhile isBlank).reverse, ?_, ?_, ?_⟩
  · calc cs = cs.takeWhile isBlank ++ trimStart cs := List.takeWhile_append_dropWhile.symm
      _ = _ := by rw [List.append_assoc, ← hend]
  · exact fun c hc => List.mem_takeWhile_imp hc
  · exact fun c hc => List.mem_takeWhile_imp (List.mem_reverse.1 hc)

/-! ## Digits -/

theorem isDigit_iff (c : Char) : isDigit c = true ↔ 48 ≤ c.toNat ∧ c.toNat ≤ 57 := by
  simp [isDigit, Char.le_def, UInt32.le_iff_toNat_le]

theorem isBlank_of_isDigit {c : Char} (h : isDigit c = true) : isBlank c = false := by
  have hrange := (isDigit_iff c).1 h
  simp only [isBlank, Bool.or_eq_false_iff, Bool.and_eq_false_iff, decide_eq_false_iff_not, beq_eq_false_iff_ne]
  omega

theorem trim_digits (n : ℕ) : trim (digits n) = digits n :=
  trim_of_not_blanks fun _ hc => isBlank_of_isDigit (isDigit_of_mem_digits hc)

theorem toList_decimal (n : ℕ) : (decimal n).toList = digits n := String.toList_ofList

theorem not_mem_digits {c : Char} (h : isDigit c = false) (n : ℕ) : c ∉ digits n := by
  intro hc
  rw [isDigit_of_mem_digits hc] at h
  cases h

/-- a run of digits, one at least, and the number it stands for -/
inductive Spells : List Char → ℕ → Prop
  | digit {c : Char} (h : isDigit c = true) : Spells [c] (c.toNat - '0'.toNat)
  /-- a further digit stands one place lower -/
  | more {cs : List Char} {n : ℕ} {c : Char} (hcs : Spells cs n) (h : isDigit c = true) :
      Spells (cs ++ [c]) (10 * n + (c.toNat - '0'.toNat))

theorem Spells.isDigit {cs : List Char} {n : ℕ} (h : Spells cs n) : ∀ c ∈ cs, Text.isDigit c = true := by
  induction h with
  | digit h => simpa using h
  | more _ h ih =>
    intro c hc
    rcases List.mem_append.1 hc with hc | hc
    · exact ih c hc
    · rw [List.mem_singleton.1 hc]
      exact h

theorem Spells.ne_nil {cs : List Char} {n : ℕ} (h : Spells cs n) : cs ≠ [] := by
  cases h <;> simp

theorem Spells.ofDigitChars {cs : List Char} {n : ℕ} (h : Spells cs n) : Nat.ofDigitChars 10 cs 0 = n := by
  induction h with
  | digit => simp [Nat.ofDigitChars]
  | more _ _ ih => rw [Nat.ofDigitChars_append, ih]; rfl

theorem spells_of_isDigit {cs : List Char} (hne : cs ≠ []) (h : ∀ c ∈ cs, isDigit c = true) :
    Spells cs (Nat.ofDigitChars 10 cs 0) := by
  induction cs using List.reverseRecOn with
  | nil => exact absurd rfl hne
  | append_singleton cs c ih =>
    have hc : isDigit c = true := h c (by simp)
    rw [Nat.ofDigitChars_append]
    by_cases hcs : cs = []
    · subst hcs
      simpa [Nat.ofDigitChars] using Spells.digit hc
    · exact .more (ih hcs fun d hd => h d (List.mem_append_left _ hd)) hc

theorem natural?_eq_some_iff {cs : List Char} {n : ℕ} : natural? cs = some n ↔ Spells cs n := by
  unfold natural?
  constructor
  · intro h
    split_ifs at h with hbad
    obtain ⟨hne, hall⟩ : cs ≠ [] ∧ ∀ c ∈ cs, isDigit c = true := by simpa using hbad
    cases h
    exact spells_of_isDigit hne hall
  · intro h
    have hgood : ¬ (cs.isEmpty || !cs.all isDigit) = true := by simpa using ⟨h.ne_nil, h.isDigit⟩
    rw [if_neg hgood, h.ofDigitChars]

/-! ## Counts -/

/-- a count as it is written: its digits, with one plus sign in front or none -/
inductive SpellsCount : List Char → UInt32 → Prop
  | bare {cs : List Char} {n : UInt32} (h : Spells cs n.toNat) : SpellsCount cs n
  | signed {cs : List Char} {n : UInt32} (h : Spells cs n.toNat) : SpellsCount ('+' :: cs) n

theorem Spells.head?_ne {cs : List Char} {n : ℕ} (h : Spells cs n) {c : Char} (hc : Text.isDigit c = false) :
    cs.head? ≠ some c := by
  intro hhead
  rw [h.isDigit c (List.mem_of_mem_head? hhead)] at hc
  cases hc

theorem count?_eq_some_iff {cs : List Char} {n : UInt32} : count? cs = some n ↔ SpellsCount cs n := by
  have hdigits : count? cs = some n ↔ Spells (if cs.head? = some '+' then cs.tail else cs) n.toNat := by
    rw [← natural?_eq_some_iff, count?]
    cases natural? (if cs.head? = some '+' then cs.tail else cs) with
    | none => simp
    | some m =>
      by_cases hm : m < UInt32.size
      · simp only [if_pos hm, Option.some.injEq, ← UInt32.toNat_inj, UInt32.toNat_ofNat_of_lt' hm]
      · simp only [if_neg hm, Option.some.injEq]
        exact iff_of_false (by simp) fun h => hm (h ▸ n.toNat_lt)
  rw [hdigits]
  constructor
  · intro h
    split_ifs at h with hsign
    · obtain ⟨rest, rfl⟩ := List.head?_eq_some_iff.1 hsign
      exact .signed h
    · exact .bare h
  · intro h
    cases h with
    | bare h => rwa [if_neg (h.head?_ne (by decide))]
    | signed h => exact h

theorem SpellsCount.isBlank {cs : List Char} {n : UInt32} (h : SpellsCount cs n) : ∀ c ∈ cs, Text.isBlank c = false := by
  cases h with
  | bare h => exact fun c hc => isBlank_of_isDigit (h.isDigit c hc)
  | signed h =>
    intro c hc
    rcases List.mem_cons.1 hc with rfl | hc
    · decide
    · exact isBlank_of_isDigit (h.isDigit c hc)

/-- a count with blanks around it, or none -/
def HoldsCount (cs : List Char) (n : UInt32) : Prop :=
  ∃ before core after, cs = before ++ core ++ after ∧ (∀ c ∈ before, isBlank c = true) ∧
    (∀ c ∈ after, isBlank c = true) ∧ SpellsCount core n

theorem count?_trim_eq_some_iff {cs : List Char} {n : UInt32} : count? (trim cs) = some n ↔ HoldsCount cs n := by
  rw [count?_eq_some_iff]
  constructor
  · intro h
    obtain ⟨before, after, hcs, hbefore, hafter⟩ := exists_trim_eq cs
    exact ⟨before, trim cs, after, hcs, hbefore, hafter, h⟩
  · rintro ⟨before, core, after, rfl, hbefore, hafter, h⟩
    rwa [trim_of_blanks hbefore h.isBlank hafter]

end TrainingJobs.Text
