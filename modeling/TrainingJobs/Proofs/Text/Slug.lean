/-
What slugs are made of. A slug has the characters of a label and starts with a letter or digit, wherever it is cut; it
is empty just for texts without an ASCII letter or digit. A word at the end of a text can be read off its slug.

- `isLabel_iff`: labels, condition by condition;
- `isLabelChar_of_mem_slug`, `head?_slug`: of what a slug is made, and how it starts;
- `slug_eq_nil_iff`: which texts have none;
- `lastPart_slug`: letters and digits that a dash joins to a text are the last part of its slug.
-/
import Mathlib.Data.List.DropRight
import Mathlib.Tactic
import TrainingJobs.Text.Label

namespace TrainingJobs.Text

/-! ## Labels -/

theorem isLabelChar_iff (c : Char) : isLabelChar c = true ↔ isLowerAlnum c = true ∨ c = '-' := by
  rw [isLabelChar, Bool.or_eq_true, beq_iff_eq]

/-- of the characters of labels the dash alone is neither a letter nor a digit -/
theorem isLowerAlnum_iff_ne_dash {c : Char} (h : isLabelChar c = true) : isLowerAlnum c = true ↔ c ≠ '-' := by
  constructor
  · rintro hc rfl
    cases hc
  · exact ((isLabelChar_iff c).1 h).resolve_right

/-- a DNS-1123 label: 1 to 63 bytes of `a` to `z`, `0` to `9` and `-`, neither the first nor the last of them `-` -/
structure Label (s : String) : Prop where
  nonempty : s.toList ≠ []
  short : s.utf8ByteSize ≤ 63
  chars : ∀ c ∈ s.toList, (('a' ≤ c ∧ c ≤ 'z') ∨ ('0' ≤ c ∧ c ≤ '9')) ∨ c = '-'
  first : s.toList.head? ≠ some '-'
  last : s.toList.getLast? ≠ some '-'

theorem hasLabelForm_iff (cs : List Char) : hasLabelForm cs = true ↔
    cs ≠ [] ∧ (∀ c ∈ cs, isLabelChar c = true) ∧ cs.head? ≠ some '-' ∧ cs.getLast? ≠ some '-' := by
  rw [hasLabelForm, Bool.and_eq_true, Bool.and_eq_true, List.all_eq_true, and_assoc]
  cases cs with
  | nil => simp
  | cons c rest =>
    rw [List.head?_cons, List.getLast?_eq_getLast_of_ne_nil (List.cons_ne_nil c rest), Option.any_some, Option.any_some]
    refine (and_congr_right fun hchars => ?_).trans (and_iff_right (List.cons_ne_nil c rest)).symm
    have hlast := hchars _ (List.getLast_mem (List.cons_ne_nil c rest))
    rw [isLowerAlnum_iff_ne_dash (hchars c List.mem_cons_self), isLowerAlnum_iff_ne_dash hlast]
    simp only [ne_eq, Option.some.injEq]

theorem isLabel_iff (s : String) : isLabel s = true ↔ Label s := by
  rw [isLabel, Bool.and_eq_true, decide_eq_true_iff, hasLabelForm_iff]
  simp only [isLabelChar, isLowerAlnum, Bool.or_eq_true, Bool.and_eq_true, decide_eq_true_iff, beq_iff_eq]
  constructor
  · rintro ⟨hshort, hnonempty, hchars, hfirst, hlast⟩
    exact ⟨hnonempty, hshort, hchars, hfirst, hlast⟩
  · rintro ⟨hnonempty, hshort, hchars, hfirst, hlast⟩
    exact ⟨hshort, hnonempty, hchars, hfirst, hlast⟩

/-! ## Dashes at the ends -/

theorem dropDashes_eq_nil_iff (cs : List Char) : dropDashes cs = [] ↔ ∀ c ∈ cs, c = '-' := by
  simp [dropDashes]

theorem dropDashes_isSuffix (cs : List Char) : dropDashes cs <:+ cs := List.dropWhile_suffix _

theorem head?_dropDashes (cs : List Char) : (dropDashes cs).head? ≠ some '-' := by
  intro h
  have hfirst := List.head?_dropWhile_not (· == '-') cs
  rw [show (cs.dropWhile (· == '-')).head? = some '-' from h] at hfirst
  cases hfirst

theorem dropDashesEnd_isPrefix (cs : List Char) : dropDashesEnd cs <+: cs := List.rdropWhile_prefix _ cs

/-- dashes are dropped up to the front only of a text that starts with one -/
theorem head?_dropDashesEnd {cs : List Char} (h : cs.head? ≠ some '-') : (dropDashesEnd cs).head? = cs.head? := by
  cases hcs : dropDashesEnd cs with
  | nil =>
    have hall : ∀ c ∈ cs, (c == '-') = true := List.rdropWhile_eq_nil_iff.1 hcs
    cases cs with
    | nil => rfl
    | cons c rest => exact absurd (congrArg some (beq_iff_eq.1 (hall c List.mem_cons_self))) h
  | cons c rest =>
    obtain ⟨tail, rfl⟩ := hcs ▸ dropDashesEnd_isPrefix cs
    rfl

/-! ## Slugs -/

theorem isAlphanum_iff (c : Char) :
    c.isAlphanum = true ↔ (('A' ≤ c ∧ c ≤ 'Z') ∨ ('a' ≤ c ∧ c ≤ 'z')) ∨ ('0' ≤ c ∧ c ≤ '9') := by
  have hcases : c.isAlphanum = ((decide ('A' ≤ c ∧ c ≤ 'Z') || (decide ('a' ≤ c) && decide (c ≤ 'z'))) ||
      (decide ('0' ≤ c) && decide (c ≤ '9'))) := rfl
  simp only [hcases, Bool.or_eq_true, Bool.and_eq_true, decide_eq_true_iff]

/-- letters in lower case are told from other characters as letters in any case are -/
theorem isLowerAlnum_toLower (c : Char) : isLowerAlnum c.toLower = c.isAlphanum := by
  rw [Bool.eq_iff_iff, isAlphanum_iff]
  unfold Char.toLower
  split_ifs with hupper
  all_goals
    simp [isLowerAlnum, Char.le_def, UInt32.le_iff_toNat_le] at hupper ⊢
    omega

theorem isLabelChar_of_mem_collapse {c : Char} {dashed : Bool} {cs : List Char} (h : c ∈ collapse dashed cs) :
    isLabelChar c = true := by
  induction cs generalizing dashed with
  | nil => cases h
  | cons first rest ih =>
    rw [collapse] at h
    split_ifs at h with hfirst hdashed
    · rcases List.mem_cons.1 h with rfl | h
      · exact (isLabelChar_iff _).2 (.inl hfirst)
      · exact ih h
    · exact ih h
    · rcases List.mem_cons.1 h with rfl | h
      · rfl
      · exact ih h

/-- a text without letters and digits collapses to nothing but dashes -/
theorem collapse_all_dashes_iff (dashed : Bool) (cs : List Char) :
    (∀ c ∈ collapse dashed cs, c = '-') ↔ ∀ c ∈ cs, c.isAlphanum = false := by
  induction cs generalizing dashed with
  | nil => simp [collapse]
  | cons first rest ih =>
    rw [collapse, List.forall_mem_cons]
    split_ifs with hfirst hdashed
    · have hlower : first.toLower ≠ '-' := (isLowerAlnum_iff_ne_dash ((isLabelChar_iff _).2 (.inl hfirst))).1 hfirst
      rw [isLowerAlnum_toLower] at hfirst
      simp [hlower, hfirst]
    · rw [isLowerAlnum_toLower, Bool.not_eq_true] at hfirst
      rw [ih, and_iff_right hfirst]
    · rw [isLowerAlnum_toLower, Bool.not_eq_true] at hfirst
      rw [List.forall_mem_cons, ih, and_iff_right rfl, and_iff_right hfirst]

theorem isLabelChar_of_mem_slug {c : Char} {s : String} (h : c ∈ slug s) : isLabelChar c = true :=
  isLabelChar_of_mem_collapse ((dropDashes_isSuffix _).mem ((dropDashesEnd_isPrefix _).mem h))

theorem head?_slug (s : String) : (slug s).head? ≠ some '-' := by
  rw [slug, head?_dropDashesEnd (head?_dropDashes _)]
  exact head?_dropDashes _

theorem slug_eq_nil_iff (s : String) : slug s = [] ↔ ∀ c ∈ s.toList, c.isAlphanum = false := by
  rw [← collapse_all_dashes_iff false, ← dropDashes_eq_nil_iff, ← List.head?_eq_none_iff, slug,
    head?_dropDashesEnd (head?_dropDashes _), List.head?_eq_none_iff]

/-! ## The last part of a slug -/

/-- what stands after the last dash; all of it, if there is none -/
def lastPart (cs : List Char) : List Char := cs.rtakeWhile (· ≠ '-')

theorem lastPart_append {cs ds : List Char} (h : '-' ∉ ds) : lastPart (cs ++ '-' :: ds) = ds := by
  have hall : ∀ c ∈ ds.reverse, decide (c ≠ '-') = true := by
    intro c hc
    rw [decide_eq_true_iff]
    rintro rfl
    exact h (List.mem_reverse.1 hc)
  rw [lastPart, List.rtakeWhile, List.reverse_append, List.reverse_cons, List.append_assoc,
    List.takeWhile_append_of_pos hall, List.singleton_append, List.takeWhile_cons_of_neg (by simp), List.append_nil,
    List.reverse_reverse]

theorem lastPart_cons_dash (cs : List Char) : lastPart ('-' :: cs) = lastPart cs := by
  rw [lastPart, lastPart, List.rtakeWhile, List.reverse_cons, List.takeWhile_append]
  split_ifs with h
  · rw [List.takeWhile_cons_of_neg (by simp), List.append_nil, List.rtakeWhile,
      (List.takeWhile_prefix _).eq_of_length h]
  · rfl

theorem lastPart_dropDashes (cs : List Char) : lastPart (dropDashes cs) = lastPart cs := by
  induction cs with
  | nil => rfl
  | cons c rest ih =>
    by_cases hc : c = '-'
    · subst hc
      exact ih.trans (lastPart_cons_dash rest).symm
    · rw [dropDashes, List.dropWhile_cons_of_neg (by simpa using hc)]

/-- a text that goes on after its last dash has no dashes at its end -/
theorem dropDashesEnd_eq_self {cs : List Char} (h : lastPart cs ≠ []) : dropDashesEnd cs = cs := by
  refine (List.rdropWhile_eq_self_iff (p := (· == '-'))).2 fun hcs hlast => h ?_
  refine List.rtakeWhile_eq_nil_iff.2 fun _ => ?_
  simpa using hlast

theorem collapse_of_isLowerAlnum {ds : List Char} (hds : ∀ c ∈ ds, isLowerAlnum c = true) (dashed : Bool) :
    collapse dashed ds = ds := by
  induction ds generalizing dashed with
  | nil => rfl
  | cons c rest ih =>
    obtain ⟨hc, hrest⟩ := List.forall_mem_cons.1 hds
    have hlower : c.toLower = c := by
      unfold Char.toLower
      split_ifs with hupper
      · simp [isLowerAlnum, Char.le_def, UInt32.le_iff_toNat_le] at hupper hc
        omega
      · rfl
    rw [collapse, hlower, if_pos hc, ih hrest]

/-- letters and digits that a dash joins to a text stay behind a dash: `written` is what stands before, and the dash may be
the one it ends with -/
theorem dash_isSuffix_collapse {ds : List Char} (hds : ∀ c ∈ ds, isLowerAlnum c = true) (dashed : Bool)
    (written : List Char) (hdashed : dashed = true → written.getLast? = some '-') (cs : List Char) :
    '-' :: ds <:+ written ++ collapse dashed (cs ++ '-' :: ds) := by
  induction cs generalizing dashed written with
  | nil =>
    have hdash : isLowerAlnum '-'.toLower = false := by decide
    simp only [List.nil_append, collapse, hdash, collapse_of_isLowerAlnum hds]
    cases dashed with
    | false => exact List.suffix_append _ _
    | true =>
      obtain ⟨front, rfl⟩ := List.getLast?_eq_some_iff.1 (hdashed rfl)
      exact ⟨front, by simp⟩
  | cons c rest ih =>
    rw [List.cons_append, collapse]
    split_ifs with halnum hdash
    · rw [List.append_cons]
      exact ih _ _ fun h => by cases h
    · exact ih _ _ fun _ => hdashed hdash
    · rw [List.append_cons]
      exact ih _ _ fun _ => by simp

/-- a word of letters and digits that a dash joins to a text is the last part of the slug of both -/
theorem lastPart_slug (s : String) {t : String} (ht : ∀ c ∈ t.toList, isLowerAlnum c = true) (hne : t ≠ "") :
    lastPart (slug (s ++ "-" ++ t)) = t.toList := by
  have hdash : '-' ∉ t.toList := fun h => by cases ht '-' h
  have hlast : lastPart (dropDashes (collapse false (s ++ "-" ++ t).toList)) = t.toList := by
    obtain ⟨front, hfront⟩ := dash_isSuffix_collapse ht false [] (fun h => by cases h) s.toList
    rw [lastPart_dropDashes, String.toList_append, String.toList_append, List.append_assoc]
    change lastPart (collapse false (s.toList ++ '-' :: t.toList)) = t.toList
    rw [← List.nil_append (collapse _ _), ← hfront, lastPart_append hdash]
  have hend : lastPart (dropDashes (collapse false (s ++ "-" ++ t).toList)) ≠ [] := by
    rw [hlast]
    simpa using hne
  rw [slug, dropDashesEnd_eq_self hend, hlast]

end TrainingJobs.Text
