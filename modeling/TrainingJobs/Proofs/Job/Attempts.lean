/-
Names of the attempts of one execution. The number of the attempt ends the slug of execution, node and attempt, behind a
dash, so that a name without a cut shows it. It also ends the identity that is fingerprinted: attempts that differ in the
last digit have other fingerprints in just the half of it that a name shows, however much of the slug is cut off.

- `lastPart_fullPrefix`: the slug tells the attempt;
- `names_eq_iff`: two names are one iff prefixes and marks are;
- `mark_ne_of_lastDigit`: the mark tells attempts that differ in the last digit apart;
- `attempts_have_own_names`: when a new attempt has a new name.
-/
import TrainingJobs.Proofs.Job.LegalNames

namespace TrainingJobs.Execution

variable {e : Execution} {a b : UInt32}

/-- the same execution at another attempt -/
def atAttempt (e : Execution) (attempt : UInt32) : Execution := { e with attempt }

theorem Usable.atAttempt (h : e.Usable) (attempt : UInt32) : (e.atAttempt attempt).Usable := h

/-! ## The prefix -/

theorem isLowerAlnum_of_mem_decimal {n : ℕ} {c : Char} (h : c ∈ (Text.decimal n).toList) :
    Text.isLowerAlnum c = true := by
  rw [Text.decimal, String.toList_ofList] at h
  have hdigit : Text.isDigit c = true := Text.isDigit_of_mem_digits h
  rw [Text.isLowerAlnum, Bool.or_eq_true]
  exact .inr hdigit

/-- the slug of execution, node and attempt ends with the attempt, which stands behind a dash or alone -/
theorem lastPart_fullPrefix (e : Execution) : Text.lastPart e.fullPrefix = Text.digits e.attempt.toNat := by
  have hne : Text.decimal e.attempt.toNat ≠ "" := by
    rw [Ne, ← String.toList_inj, Text.decimal, String.toList_ofList]
    exact Text.digits_ne_nil _
  rw [fullPrefix, Text.lastPart_slug _ (fun _ => isLowerAlnum_of_mem_decimal) hne, Text.decimal, String.toList_ofList]

theorem namePrefix_eq_fullPrefix (h : (String.ofList e.fullPrefix).utf8ByteSize ≤ prefixLength) :
    e.namePrefix = e.fullPrefix := by
  rw [Text.utf8ByteSize_ofList fun _ => isLabelChar_of_mem_fullPrefix] at h
  have hlast : Text.lastPart e.fullPrefix ≠ [] := by
    rw [lastPart_fullPrefix]
    exact Text.digits_ne_nil _
  rw [namePrefix_eq_cut, List.take_of_length_le h, Text.dropDashesEnd_eq_self hlast]

/-! ## The hash -/

/-- the identity up to the attempt, which ends it -/
def textFront (e : Execution) : String := e.project ++ "/" ++ e.domain ++ "/" ++ e.name ++ "/" ++ e.node ++ "/"

theorem utf8_text (e : Execution) :
    Text.utf8 e.text = Text.utf8 e.textFront ++ Text.utf8 (Text.decimal e.attempt.toNat) := Text.utf8_append _ _

theorem utf8_decimal (n : ℕ) : Text.utf8 (Text.decimal n) = (Text.digits n).map fun c => c.toNat.toUInt8 :=
  Text.utf8_ofList fun c hc => (Text.isLabelChar_iff c).2
    (.inl (isLowerAlnum_of_mem_decimal (by rwa [Text.decimal, String.toList_ofList])))

/-- what is fingerprinted is the same up to the last digit, which decides the upper half of the hash -/
theorem mark_ne_of_lastDigit (e : Execution) (hne : a ≠ b)
    (hdigits : (Text.digits a.toNat).dropLast = (Text.digits b.toNat).dropLast) :
    Names.mark (e.atAttempt a) ≠ Names.mark (e.atAttempt b) := by
  let bytes (attempt : UInt32) : List UInt8 := Text.utf8 (Text.decimal attempt.toNat)
  have hbytes : ∀ attempt, bytes attempt ≠ [] := by
    intro attempt
    simpa [bytes, utf8_decimal] using Text.digits_ne_nil attempt.toNat
  have hfront : (bytes a).dropLast = (bytes b).dropLast := by
    simp only [bytes, utf8_decimal, ← List.map_dropLast, hdigits]
  have hmark : ∀ attempt, Names.mark (e.atAttempt attempt) =
      Text.fnvStep (Text.fnv (Text.utf8 e.textFront ++ (bytes attempt).dropLast))
        ((bytes attempt).getLast (hbytes attempt)) >>> 32 := by
    intro attempt
    rw [← Text.fnv_concat, List.append_assoc, List.dropLast_append_getLast]
    exact congrArg (Text.fnv · >>> 32) (utf8_text (e.atAttempt attempt))
  intro hsame
  rw [hmark, hmark, hfront, Text.fnvStep_upperHalf_eq_iff] at hsame
  have hall : bytes a = bytes b := by
    rw [← List.dropLast_append_getLast (hbytes a), ← List.dropLast_append_getLast (hbytes b), hfront, hsame]
  have hdecimal : Text.digits a.toNat = Text.digits b.toNat := String.ofList_inj.1 ((Text.utf8_inj _ _).1 hall)
  exact hne (UInt32.toNat_inj.1 (Text.digits_inj hdecimal))

/-! ## The name -/

theorem names_eq_iff (e e' : Execution) :
    String.ofList (e.namePrefix ++ '-' :: e.nameHash) = String.ofList (e'.namePrefix ++ '-' :: e'.nameHash) ↔
      e.namePrefix = e'.namePrefix ∧ Names.mark e = Names.mark e' := by
  rw [String.ofList_inj, ← Names.nameHash_eq_iff]
  constructor
  · intro h
    have hlength : ('-' :: e.nameHash).length = ('-' :: e'.nameHash).length := by
      rw [List.length_cons, List.length_cons, nameHash_length, nameHash_length]
    obtain ⟨hfront, hhash⟩ := List.append_inj' h hlength
    exact ⟨hfront, (List.cons.inj hhash).2⟩
  · rintro ⟨hfront, hhash⟩
    rw [hfront, hhash]

theorem namePrefix_ne_of_fits (e : Execution) (hne : a ≠ b)
    (ha : (String.ofList (e.atAttempt a).fullPrefix).utf8ByteSize ≤ prefixLength)
    (hb : (String.ofList (e.atAttempt b).fullPrefix).utf8ByteSize ≤ prefixLength) :
    (e.atAttempt a).namePrefix ≠ (e.atAttempt b).namePrefix := by
  intro hsame
  rw [namePrefix_eq_fullPrefix ha, namePrefix_eq_fullPrefix hb] at hsame
  have hlast := congrArg Text.lastPart hsame
  rw [lastPart_fullPrefix, lastPart_fullPrefix] at hlast
  exact hne (UInt32.toNat_inj.1 (Text.digits_inj hlast))

theorem dropLast_digits_of_lt_ten (h : a < 10) : (Text.digits a.toNat).dropLast = [] := by
  have hlt : a.toNat < 10 := UInt32.lt_iff_toNat_lt.1 h
  rw [Text.digits, Nat.toDigits_of_lt_base hlt]
  rfl

/-- **A new attempt has a new name.** Let an execution have a usable name. Any two of its attempts have names, and these
differ if the slugs of both need no cut. They differ, whatever is cut off, if the numbers of the attempts differ in the
last digit only, as those below ten do. -/
theorem attempts_have_own_names (h : e.Usable) (hne : a ≠ b) :
    ∃ name name', (e.atAttempt a).jobName = .ok name ∧ (e.atAttempt b).jobName = .ok name' ∧
      ((String.ofList (e.atAttempt a).fullPrefix).utf8ByteSize ≤ 54 →
        (String.ofList (e.atAttempt b).fullPrefix).utf8ByteSize ≤ 54 → name ≠ name') ∧
      ((Text.digits a.toNat).dropLast = (Text.digits b.toNat).dropLast → name ≠ name') ∧
      (a < 10 → b < 10 → name ≠ name') := by
  have hlastDigit : (Text.digits a.toNat).dropLast = (Text.digits b.toNat).dropLast →
      String.ofList ((e.atAttempt a).namePrefix ++ '-' :: (e.atAttempt a).nameHash) ≠
        String.ofList ((e.atAttempt b).namePrefix ++ '-' :: (e.atAttempt b).nameHash) := by
    intro hdigits hsame
    exact e.mark_ne_of_lastDigit hne hdigits ((names_eq_iff _ _).1 hsame).2
  refine ⟨_, _, jobName_of_usable (h.atAttempt a), jobName_of_usable (h.atAttempt b), ?_, hlastDigit, ?_⟩
  · intro ha hb hsame
    exact e.namePrefix_ne_of_fits hne ha hb ((names_eq_iff _ _).1 hsame).1
  · intro ha hb
    exact hlastDigit ((dropLast_digits_of_lt_ten ha).trans (dropLast_digits_of_lt_ten hb).symm)

/-- an execution whose attempts are cut off -/
def longNamed : Execution where
  project := "ml"
  domain := "dev"
  name := String.ofList (List.replicate 60 'a')
  node := "n0"

/-- the law where the prefixes of both attempts are one: the names differ by the fingerprint alone -/
theorem retry_of_long_name : longNamed.Usable ∧
    (longNamed.atAttempt 0).namePrefix = (longNamed.atAttempt 1).namePrefix ∧
    ∃ name name', (longNamed.atAttempt 0).jobName = .ok name ∧ (longNamed.atAttempt 1).jobName = .ok name' ∧
      name ≠ name' := by
  have husable : longNamed.Usable := by decide +kernel
  obtain ⟨name, name', hname, hname', _, _, hbelow⟩ :=
    attempts_have_own_names husable (show (0 : UInt32) ≠ 1 by decide)
  exact ⟨husable, by decide +kernel, name, name', hname, hname', hbelow (by decide) (by decide)⟩

end TrainingJobs.Execution
