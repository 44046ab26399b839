/-
Node counts as they are written. A text is a node count if it is one count, or two of them with a colon between, blanks
around each left aside; each is at least 1 and the second no less than the first. Any other text is refused, and for a
reason that can be told from it; none stands for a count that it does not hold. A node count that breaks these rules can
be made, written and sent, but is not read again.

- `parse_eq_ok_iff`: which texts are read, and as which counts;
- `refused_of_parse`: why a text is refused;
- `node_counts_are_read_as_written`: both, for every text;
- `ofJson_toJson`: a count that is sent has to pass its check where it arrives;
- `counts_come_back_iff_valid`: what is written or sent comes back just when it is valid, and whatever is read is.
-/
import TrainingJobs.Proofs.Elastic.Environment

namespace TrainingJobs

namespace NodeCount

/-! ## The parts of a text -/

theorem holdsCount_colon {cs : List Char} {n : UInt32} (h : Text.HoldsCount cs n) : ':' ∉ cs := by
  obtain ⟨before, core, after, rfl, hbefore, hafter, hcore⟩ := h
  have hblanks : ∀ ds : List Char, (∀ c ∈ ds, Text.isBlank c = true) → ':' ∉ ds := fun ds hds hmem =>
    absurd (hds ':' hmem) (by decide)
  have hdigits : ∀ {ds : List Char} {m : ℕ}, Text.Spells ds m → ':' ∉ ds := fun h hmem =>
    absurd (h.isDigit ':' hmem) (by decide)
  have hcolon : ':' ∉ core := by
    cases hcore with
    | bare h => exact hdigits h
    | signed h => simpa using hdigits h
  simp [hblanks before hbefore, hblanks after hafter, hcolon]

theorem bound_eq_ok_iff {whole : String} {part : List Char} {n : UInt32} :
    bound whole part = .ok n ↔ Text.HoldsCount part n := by
  rw [← Text.count?_trim_eq_some_iff, bound]
  by_cases hsign : (Text.trim part).head? = some '-'
  · rw [if_pos hsign]
    refine iff_of_false (by simp) fun h => ?_
    have hcount := Text.count?_eq_some_iff.1 h
    generalize Text.trim part = core at hsign hcount
    cases hcount with
    | bare h => exact h.head?_ne (by decide) hsign
    | signed h => simp at hsign
  · rw [if_neg hsign]
    cases Text.count? (Text.trim part) <;> simp

/-! ## The grammar -/

/-- how node counts are written -/
inductive Written : List Char → NodeCount → Prop
  | fixed {part : List Char} {n : UInt32} (h : Text.HoldsCount part n) (hn : 1 ≤ n) : Written part (.fixed n)
  | range {low high : List Char} {lo hi : UInt32} (hlow : Text.HoldsCount low lo) (hhigh : Text.HoldsCount high hi)
      (hlo : 1 ≤ lo) (hhi : 1 ≤ hi) (h : lo ≤ hi) : Written (low ++ ':' :: high) (.range lo hi)

theorem Written.isValid {cs : List Char} {c : NodeCount} (h : Written cs c) : c.IsValid := by
  cases h with
  | fixed _ hn => exact ⟨hn, UInt32.le_refl _⟩
  | range _ _ hlo _ h => exact ⟨hlo, h⟩

/-- a text is its parts with colons between -/
theorem intercalate_parts (cs : List Char) : [':'].intercalate (parts cs) = cs := by
  rw [parts_eq_splitOn, List.intercalate_splitOn]

theorem parse_eq_ok_iff (s : String) (c : NodeCount) : parse s = .ok c ↔ Written s.toList c := by
  constructor
  · intro h
    have hjoin := intercalate_parts s.toList
    unfold parse at h
    split at h
    · next part hparts =>
      have htext : s.toList = part := by simpa [hparts] using hjoin.symm
      obtain ⟨n, hn, h⟩ := of_bind_eq_ok h
      obtain ⟨rfl, hvalid⟩ := (check_eq_ok_iff _ _).1 h
      rw [htext]
      exact .fixed (bound_eq_ok_iff.1 hn) hvalid.1
    · next low high hparts =>
      have htext : s.toList = low ++ ':' :: high := by simpa [hparts, List.intercalate] using hjoin.symm
      obtain ⟨lo, hlo, h⟩ := of_bind_eq_ok h
      obtain ⟨hi, hhi, h⟩ := of_bind_eq_ok h
      obtain ⟨rfl, hvalid⟩ := (check_eq_ok_iff _ _).1 h
      rw [htext]
      exact .range (bound_eq_ok_iff.1 hlo) (bound_eq_ok_iff.1 hhi) hvalid.1 (UInt32.le_trans hvalid.1 hvalid.2) hvalid.2
    · cases h
  · intro h
    have hcheck : c.check = .ok c := (check_eq_ok_iff _ _).2 ⟨rfl, h.isValid⟩
    generalize hcs : s.toList = cs at h
    rw [← hcheck, parse, hcs, parts_eq_splitOn]
    cases h with
    | fixed h =>
      rw [List.splitOn_eq_singleton (holdsCount_colon h)]
      simp only [bound_eq_ok_iff.2 h]
      rfl
    | range hlow hhigh =>
      rw [List.splitOn_append_cons_self_of_not_mem (holdsCount_colon hlow),
        List.splitOn_eq_singleton (holdsCount_colon hhigh)]
      simp only [bound_eq_ok_iff.2 hlow, bound_eq_ok_iff.2 hhigh]
      rfl

/-! ## Refusals -/

/-- why a text is no node count -/
inductive Refused (s : String) : Misconfiguration → Prop
  | negative {part : List Char} (hpart : part ∈ s.toList.splitOn ':') (h : (Text.trim part).head? = some '-') :
      Refused s (.negativeNodes s)
  | noCount {part : List Char} (hpart : part ∈ s.toList.splitOn ':') (h : ∀ n, ¬ Text.HoldsCount part n) :
      Refused s (.malformedNodes s)
  | manyParts (h : 2 < (s.toList.splitOn ':').length) : Refused s (.malformedNodes s)
  | zero (h : Text.HoldsCount s.toList 0) : Refused s .zeroNodes
  | fromZero {low high : List Char} {hi : UInt32} (hs : s.toList = low ++ ':' :: high) (hlow : Text.HoldsCount low 0)
      (hhigh : Text.HoldsCount high hi) : Refused s (.zeroMinNodes 0 hi)
  | falls {low high : List Char} {lo hi : UInt32} (hs : s.toList = low ++ ':' :: high) (hlow : Text.HoldsCount low lo)
      (hhigh : Text.HoldsCount high hi) (h : hi < lo) : Refused s (.invertedNodes lo hi)

theorem refused_of_bound {s : String} {part : List Char} {cause : Misconfiguration}
    (hpart : part ∈ s.toList.splitOn ':') (h : bound s part = .error cause) : Refused s cause := by
  have hnone : ∀ n, ¬ Text.HoldsCount part n := by
    intro n hn
    rw [bound_eq_ok_iff.2 hn] at h
    cases h
  unfold bound at h
  simp only at h
  split_ifs at h with hsign
  · cases h
    exact .negative hpart hsign
  · split at h <;> cases h
    exact .noCount hpart hnone

theorem refused_of_parse {s : String} {cause : Misconfiguration} (h : parse s = .error cause) : Refused s cause := by
  have hjoin := intercalate_parts s.toList
  unfold parse at h
  split at h
  · next part hparts =>
    have htext : s.toList = part := by simpa [hparts] using hjoin.symm
    have hmem : part ∈ s.toList.splitOn ':' := by rw [← parts_eq_splitOn, hparts]; exact List.mem_cons_self
    rcases of_bind_eq_error h with h | ⟨n, hn, h⟩
    · exact refused_of_bound hmem h
    · have hheld := bound_eq_ok_iff.1 hn
      rw [← htext] at hheld
      simp only [check] at h
      split_ifs at h with hzero
      cases h
      exact .zero (hzero ▸ hheld)
  · next low high hparts =>
    have htext : s.toList = low ++ ':' :: high := by simpa [hparts, List.intercalate] using hjoin.symm
    have hmem : ∀ part ∈ [low, high], part ∈ s.toList.splitOn ':' := by
      intro part hpart
      rwa [← parts_eq_splitOn, hparts]
    rcases of_bind_eq_error h with h | ⟨lo, hlo, h⟩
    · exact refused_of_bound (hmem _ (by simp)) h
    rcases of_bind_eq_error h with h | ⟨hi, hhi, h⟩
    · exact refused_of_bound (hmem _ (by simp)) h
    have hlow := bound_eq_ok_iff.1 hlo
    have hhigh := bound_eq_ok_iff.1 hhi
    simp only [check] at h
    split_ifs at h with hzero hfalls
    · cases h
      subst hzero
      exact .fromZero htext hlow hhigh
    · cases h
      exact .falls htext hlow hhigh hfalls
  · next hone htwo =>
    cases h
    refine .manyParts ?_
    rw [← parts_eq_splitOn]
    cases hparts : parts s.toList with
    | nil => exact absurd hparts (by rw [parts_eq_splitOn]; exact List.splitOn_ne_nil _ _)
    | cons first rest =>
      cases rest with
      | nil => exact absurd hparts (hone first)
      | cons second rest =>
        cases rest with
        | nil => exact absurd hparts (htwo first second)
        | cons third rest => simp

/-- **Node counts are read as they are written.** A text is read as a node count just when it is written as that one:
one count, or two with a colon between, each with blanks around it or none, at least 1, and the second no less than the
first. Any other text is an invalid configuration, for a reason that can be told from it. -/
theorem node_counts_are_read_as_written (s : String) :
    (∀ c, parse s = .ok c ↔ Written s.toList c) ∧
    ((¬ ∃ c, Written s.toList c) ↔
      ∃ cause, (parse s).mapError Error.configuration = .error (.configuration cause) ∧ Refused s cause) := by
  refine ⟨parse_eq_ok_iff s, fun h => ?_, ?_⟩
  · cases hparse : parse s with
    | ok c => exact absurd ⟨c, (parse_eq_ok_iff s c).1 hparse⟩ h
    | error cause => exact ⟨cause, rfl, refused_of_parse hparse⟩
  · rintro ⟨cause, herror, _⟩ ⟨c, hc⟩
    rw [(parse_eq_ok_iff s c).2 hc] at herror
    cases herror

/-- signs, zeros and blanks within a part do not matter -/
example : parse "\u2003+007 :\t12 " = .ok (.range 7 12) := by decide +kernel

/-! ## Counts that are sent -/

/-- a count that is sent has to pass its check where it arrives -/
theorem ofJson_toJson (c : NodeCount) : ofJson c.toJson = c.check.mapError .invalid := by
  cases c with
  | fixed n =>
    have hword : Json.isSigned64 (n.toNat : ℤ) = true := by
      have := n.toNat_lt
      simp only [Json.isSigned64, Bool.and_eq_true, decide_eq_true_eq]
      omega
    have hread : ofInt (n.toNat : ℤ) = (fixed n).check := by
      rw [ofInt, (countOf?_eq_some_iff _ n).2 rfl]
    rw [← hread]
    exact if_pos hword
  | range lo hi =>
    rw [← parse_text]
    rfl

/-- whatever a count is read from, it is valid -/
theorem isValid_of_ofJson {w : Json} {c : NodeCount} (h : ofJson w = .ok c) : c.IsValid := by
  unfold ofJson at h
  split at h
  · next n =>
    split_ifs at h
    have hread : ofInt n = .ok c := mapError_eq_ok_iff.1 h
    unfold ofInt at hread
    split at hread
    · obtain ⟨rfl, hvalid⟩ := (check_eq_ok_iff _ _).1 hread
      exact hvalid
    · cases hread
  · next s => exact ((parse_eq_ok_iff s c).1 (mapError_eq_ok_iff.1 h)).isValid
  · cases h

/-- **A node count comes back just when it is valid.** Written or sent, a count that passes its check comes back as it
was, and one that does not is an invalid configuration, for the reason that the check gives. Whatever a count is read
from, it is valid and comes back when it is sent on, and no configuration of it is refused a mode for its nodes. -/
theorem counts_come_back_iff_valid :
    (∀ c : NodeCount,
      (c.IsValid ∧ c.check = .ok c ∧ ofJson c.toJson = .ok c ∧ parse c.text = .ok c) ∨
      ∃ cause, ¬ c.IsValid ∧ c.check = .error cause ∧ ofJson c.toJson = .error (.invalid cause) ∧
        (parse c.text).mapError Error.configuration = .error (.configuration cause)) ∧
    ∀ (w : Json) (c : NodeCount), ofJson w = .ok c → c.IsValid ∧ ofJson c.toJson = .ok c ∧
      ∀ (config : ElasticConfig) (backend : String) (cause : Misconfiguration),
        ({ config with nodes := c } : ElasticConfig).mode backend = .error cause ↔
          config.processesPerNode = 0 ∧ cause = .zeroProcesses := by
  have hvalid : ∀ c : NodeCount, c.IsValid → c.check = .ok c := fun c h => (check_eq_ok_iff _ _).2 ⟨rfl, h⟩
  refine ⟨fun c => ?_, fun w c h => ?_⟩
  · rw [ofJson_toJson, parse_text]
    cases hcheck : c.check with
    | ok d =>
      obtain ⟨rfl, h⟩ := (check_eq_ok_iff _ _).1 hcheck
      exact .inl ⟨h, rfl, rfl, rfl⟩
    | error cause =>
      refine .inr ⟨cause, fun h => ?_, rfl, rfl, rfl⟩
      rw [hvalid c h] at hcheck
      cases hcheck
  · have hc := isValid_of_ofJson h
    refine ⟨hc, ?_, fun config backend cause => ElasticConfig.mode_eq_error_iff hc backend cause⟩
    rw [ofJson_toJson, hvalid c hc]
    rfl

/-- the law at a range that is sent with signs and blanks, and at one that falls -/
theorem range_comes_back :
    ofJson (.text " +02:4") = .ok (.range 2 4) ∧ ofJson (range 2 4).toJson = .ok (.range 2 4) ∧
    ofJson (range 4 2).toJson = .error (.invalid (.invertedNodes 4 2)) := by
  have hread : ofJson (.text " +02:4") = .ok (.range 2 4) := by decide +kernel
  refine ⟨hread, (counts_come_back_iff_valid.2 _ _ hread).2.1, ?_⟩
  rcases counts_come_back_iff_valid.1 (.range 4 2) with ⟨hvalid, _⟩ | ⟨cause, _, hcheck, hsent, _⟩
  · exact absurd hvalid.2 (by decide)
  · rw [hsent]
    cases hcheck
    rfl

end NodeCount

end TrainingJobs
