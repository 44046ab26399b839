/-
Names of jobs are labels. The slug of execution, node and attempt starts with a letter or digit, so that neither the cut
to length nor the dashes dropped after it leave an empty prefix; a dash and digits of the fingerprint end the name. Only
an execution whose own name has no ASCII letter or digit is refused a name.

- `head?_namePrefix`, `namePrefix_ne_nil`, `namePrefix_length_le`: what is left of a prefix;
- `isLabel_prefix_hash`: prefix and hash make a label;
- `jobName_of_usable`, `jobName_of_not_usable`: which executions have a name, and which one;
- `names_are_legal`: all of it, for every execution.
-/
import TrainingJobs.Proofs.Job.Names
import TrainingJobs.Proofs.Text.Slug

namespace TrainingJobs

/-! ## Characters of names -/

namespace Text

theorem utf8ByteSize_ofList {cs : List Char} (h : ∀ c ∈ cs, isLabelChar c = true) :
    (String.ofList cs).utf8ByteSize = cs.length := by
  induction cs with
  | nil => rfl
  | cons c rest ih =>
    obtain ⟨hc, hrest⟩ := List.forall_mem_cons.1 h
    have hsize : c.utf8Size = 1 := of_isLabelChar (p := fun c => c.utf8Size = 1) (by decide +kernel) hc
    have hcons : String.ofList (c :: rest) = String.singleton c ++ String.ofList rest := by
      rw [String.singleton_eq_ofList, ← String.ofList_append, List.singleton_append]
    rw [hcons, String.utf8ByteSize_append, String.utf8ByteSize_singleton, hsize, ih hrest, List.length_cons,
      Nat.add_comm]

theorem utf8EncodeChar_of_isLabelChar {c : Char} (h : isLabelChar c = true) :
    String.utf8EncodeChar c = [c.toNat.toUInt8] :=
  of_isLabelChar (p := fun c => String.utf8EncodeChar c = [c.toNat.toUInt8]) (by decide +kernel) h

theorem utf8_ofList {cs : List Char} (h : ∀ c ∈ cs, isLabelChar c = true) :
    utf8 (String.ofList cs) = cs.map fun c => c.toNat.toUInt8 := by
  rw [utf8, String.toList_ofList]
  induction cs with
  | nil => rfl
  | cons c rest ih =>
    obtain ⟨hc, hrest⟩ := List.forall_mem_cons.1 h
    rw [List.flatMap_cons, utf8EncodeChar_of_isLabelChar hc, ih hrest, List.singleton_append, List.map_cons]

/-- no cut of the bytes falls inside a character -/
theorem utf8_take {cs : List Char} (h : ∀ c ∈ cs, isLabelChar c = true) (n : ℕ) :
    utf8 (String.ofList (cs.take n)) = (utf8 (String.ofList cs)).take n := by
  rw [utf8_ofList h, utf8_ofList fun c hc => h c (List.mem_of_mem_take hc), List.map_take]

theorem isLowerAlnum_of_mem_hexDigits {c : Char} {width n : Nat} (h : c ∈ hexDigits width n) : isLowerAlnum c = true := by
  have hdigit : ∀ d < 16, isLowerAlnum (hexDigit d) = true := by decide
  induction width generalizing n with
  | zero => cases h
  | succ width ih =>
    rcases List.mem_append.1 h with h | h
    · exact ih h
    · rw [List.mem_singleton.1 h]
      exact hdigit (n % 16) (Nat.mod_lt n (by decide))

end Text

namespace Execution

/-- the name of the execution has an ASCII letter or digit -/
def Usable (e : Execution) : Prop := ∃ c ∈ e.name.toList, c.isAlphanum = true

instance (e : Execution) : Decidable e.Usable := List.decidableBEx _ _

variable {e : Execution}

theorem usable_iff (e : Execution) : e.Usable ↔ Text.slug e.name ≠ [] := by
  rw [Ne, Text.slug_eq_nil_iff, Usable]
  simp

/-! ## The prefix -/

/-- the slug of execution, node and attempt, as long as it is -/
def fullPrefix (e : Execution) : List Char :=
  Text.slug (e.name ++ "-" ++ e.node ++ "-" ++ Text.decimal e.attempt.toNat)

theorem namePrefix_eq_cut (e : Execution) : e.namePrefix = Text.dropDashesEnd (e.fullPrefix.take prefixLength) := rfl

theorem isLabelChar_of_mem_fullPrefix {c : Char} (h : c ∈ e.fullPrefix) : Text.isLabelChar c = true :=
  Text.isLabelChar_of_mem_slug h

/-- the name is followed by more text, and has a letter or digit of its own -/
theorem Usable.slug_ne_nil (h : e.Usable) (more : String) : Text.slug (e.name ++ more) ≠ [] := by
  obtain ⟨c, hc, halnum⟩ := h
  rw [Ne, Text.slug_eq_nil_iff]
  intro hnone
  have hmem : c ∈ (e.name ++ more).toList := by
    rw [String.toList_append]
    exact List.mem_append_left _ hc
  rw [hnone c hmem] at halnum
  cases halnum

theorem isLabelChar_of_mem_namePrefix {c : Char} (h : c ∈ e.namePrefix) : Text.isLabelChar c = true :=
  Text.isLabelChar_of_mem_slug (List.mem_of_mem_take ((Text.dropDashesEnd_isPrefix _).mem h))

theorem namePrefix_length_le (e : Execution) : e.namePrefix.length ≤ prefixLength :=
  (Text.dropDashesEnd_isPrefix _).length_le.trans (List.length_take_le _ _)

theorem head?_namePrefix (e : Execution) :
    e.namePrefix.head? = (Text.slug (e.name ++ "-" ++ e.node ++ "-" ++ Text.decimal e.attempt.toNat)).head? := by
  have hcut (cs : List Char) : (cs.take prefixLength).head? = cs.head? := by
    rw [List.head?_take, if_neg (by decide)]
  -- a slug does not start with a dash, so that what is dropped of its cut are dashes at the end only
  rw [namePrefix, Text.head?_dropDashesEnd (by rw [hcut]; exact Text.head?_slug _), hcut]

theorem namePrefix_ne_nil (h : e.Usable) : e.namePrefix ≠ [] := by
  rw [Ne, ← List.head?_eq_none_iff, head?_namePrefix, List.head?_eq_none_iff, String.append_assoc, String.append_assoc,
    String.append_assoc]
  exact h.slug_ne_nil _

/-! ## The name -/

theorem nameHash_length (e : Execution) : e.nameHash.length = hashLength := by
  rw [Names.nameHash_eq, Text.hexDigits_length]

theorem isLowerAlnum_of_mem_nameHash {c : Char} (h : c ∈ e.nameHash) : Text.isLowerAlnum c = true := by
  rw [Names.nameHash_eq] at h
  exact Text.isLowerAlnum_of_mem_hexDigits h

theorem isLabel_prefix_hash (h : e.Usable) : Text.isLabel (String.ofList (e.namePrefix ++ '-' :: e.nameHash)) = true := by
  have hchars : ∀ c ∈ e.namePrefix ++ '-' :: e.nameHash, Text.isLabelChar c = true := by
    intro c hc
    rcases List.mem_append.1 hc with hc | hc
    · exact isLabelChar_of_mem_namePrefix hc
    · rcases List.mem_cons.1 hc with rfl | hc
      · rfl
      · exact (Text.isLabelChar_iff c).2 (.inl (isLowerAlnum_of_mem_nameHash hc))
  have hlength : (e.namePrefix ++ '-' :: e.nameHash).length ≤ Text.maxLabelLength := by
    have hshort : e.namePrefix.length ≤ 54 := e.namePrefix_length_le
    rw [List.length_append, List.length_cons, e.nameHash_length]
    exact Nat.add_le_add_right hshort 9
  have hfirst : (e.namePrefix ++ '-' :: e.nameHash).head? ≠ some '-' := by
    rw [List.head?_append_of_ne_nil _ (namePrefix_ne_nil h), head?_namePrefix]
    exact Text.head?_slug _
  have hlast : (e.namePrefix ++ '-' :: e.nameHash).getLast? ≠ some '-' := by
    have hhash : e.nameHash ≠ [] := List.ne_nil_of_length_eq_add_one e.nameHash_length
    obtain ⟨c, hc⟩ := Option.ne_none_iff_exists'.1 (mt List.getLast?_eq_none_iff.1 hhash)
    rw [← List.singleton_append, ← List.append_assoc, List.getLast?_append, hc, Option.some_or]
    rintro ⟨⟩
    cases isLowerAlnum_of_mem_nameHash (List.mem_of_getLast? hc)
  rw [Text.isLabel, Text.utf8ByteSize_ofList hchars, String.toList_ofList, Bool.and_eq_true, decide_eq_true_iff,
    Text.hasLabelForm_iff]
  exact ⟨hlength, by simp, hchars, hfirst, hlast⟩

theorem jobName_of_usable (h : e.Usable) : e.jobName = .ok (String.ofList (e.namePrefix ++ '-' :: e.nameHash)) := by
  have hslug : ¬ (Text.slug e.name).isEmpty = true := by simpa using (usable_iff e).1 h
  have hlabel := (checkLabel_eq_ok_iff _ "job name").2 (isLabel_prefix_hash h)
  rw [jobName, if_neg hslug]
  simp only [hlabel, bind, Except.bind, pure, Except.pure]

theorem jobName_of_not_usable (h : ¬ e.Usable) : e.jobName = .error (.unusableName e.text) := by
  have hslug : Text.slug e.name = [] := by simpa using mt (usable_iff e).2 h
  rw [jobName, hslug]
  rfl

/-- a name as the jobs of an execution have it: a label, which a dash and the first 8 digits of the fingerprint of the
whole identity end -/
structure Legal (e : Execution) (name : String) : Prop where
  label : Text.Label name
  ending : ∃ front, front ≠ "" ∧ name = front ++ "-" ++ String.ofList ((Text.fingerprint e.text).toList.take 8)

theorem legal_prefix_hash (h : e.Usable) : e.Legal (String.ofList (e.namePrefix ++ '-' :: e.nameHash)) := by
  refine ⟨(Text.isLabel_iff _).1 (isLabel_prefix_hash h), String.ofList e.namePrefix, ?_, ?_⟩
  · simpa using namePrefix_ne_nil h
  · rw [List.append_cons, String.ofList_append, String.ofList_append]
    rfl

theorem usable_of_jobName {name : String} (h : e.jobName = .ok name) : e.Usable := by
  by_contra hunusable
  rw [jobName_of_not_usable hunusable] at h
  cases h

theorem of_jobName_eq_error {cause : Misconfiguration} (h : e.jobName = .error cause) :
    cause = .unusableName e.text ∧ ¬ e.Usable := by
  by_cases husable : e.Usable
  · rw [jobName_of_usable husable] at h
    cases h
  · rw [jobName_of_not_usable husable] at h
    exact ⟨(Except.error.inj h).symm, husable⟩

/-- **Names of jobs are legal.** An execution is refused a name just when its own name has no ASCII letter or digit, and
the refusal is an error of the configuration. Every name is a label that ends in a dash and the first 8 digits of the
fingerprint of the identity. On the way to a name nothing breaks: the first 54 bytes of the slug are those of its first
54 characters, something is left when the dashes after the cut are dropped, and the last check passes. -/
theorem names_are_legal (e : Execution) :
    ((∃ err, e.jobName.mapError Error.configuration = .error err) ↔ ¬ e.Usable) ∧
    (∀ err, e.jobName.mapError Error.configuration = .error err → err = .configuration (.unusableName e.text)) ∧
    (∀ name, e.jobName = .ok name → e.Legal name) ∧
    Text.utf8 (String.ofList (e.fullPrefix.take 54)) = (Text.utf8 (String.ofList e.fullPrefix)).take 54 ∧
    (e.Usable → Text.dropDashesEnd (e.fullPrefix.take 54) ≠ [] ∧
      checkLabel (String.ofList (e.namePrefix ++ '-' :: e.nameHash)) "job name" = .ok ()) := by
  refine ⟨⟨?_, ?_⟩, ?_, ?_, Text.utf8_take (fun _ => isLabelChar_of_mem_fullPrefix) 54, fun h => ⟨?_, ?_⟩⟩
  · rintro ⟨err, herr⟩
    obtain ⟨cause, hcause, _⟩ := of_mapError_eq_error herr
    exact (of_jobName_eq_error hcause).2
  · intro h
    rw [jobName_of_not_usable h]
    exact ⟨_, rfl⟩
  · intro err herr
    obtain ⟨cause, hcause, rfl⟩ := of_mapError_eq_error herr
    rw [(of_jobName_eq_error hcause).1]
  · intro name hname
    have h := usable_of_jobName hname
    rw [jobName_of_usable h] at hname
    rw [← Except.ok.inj hname]
    exact legal_prefix_hash h
  · exact namePrefix_ne_nil h
  · exact (checkLabel_eq_ok_iff _ _).2 (isLabel_prefix_hash h)

/-- an execution whose slug is cut right after a dash -/
def cutAtDash : Execution where
  project := "ml"
  domain := "dev"
  name := "É" ++ String.ofList (List.replicate 53 'A') ++ "--ß b"
  node := "n0"

/-- the law where the cut falls on a dash, which is dropped: the name has 62 characters -/
theorem name_cut_at_dash : ∃ name, cutAtDash.jobName = .ok name ∧ name.utf8ByteSize = 62 ∧ cutAtDash.Legal name := by
  have hok : cutAtDash.jobName.toOption.isSome = true := by decide +kernel
  obtain ⟨name, hname⟩ := eq_ok_of_isSome hok
  refine ⟨name, hname, ?_, cutAtDash.names_are_legal.2.2.1 name hname⟩
  have hsize : cutAtDash.jobName.toOption.map String.utf8ByteSize = some 62 := by decide +kernel
  rw [hname] at hsize
  exact Option.some.inj hsize

end Execution

end TrainingJobs
