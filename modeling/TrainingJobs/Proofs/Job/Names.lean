/-
Names of jobs and the identities behind them. A name shows execution, node and attempt as far as there is room, and of
the whole identity only the first 8 digits of its fingerprint: it tells two projects or domains apart iff these digits
differ. The text that is fingerprinted joins project and domain by a slash and escapes nothing: it is another one for
another identity as long as no project holds a slash, and may be the same where one does.

- `text_eq_iff`: identities have one text just when project, slash and domain come to one text.
- `text_eq_iff_of_noSlash`: where no project holds a slash, the text gives project and domain back.
- `names_differ_iff_marks_differ`: executions that differ in project or domain have different names iff the upper halves
  of the hashes of their texts differ.
- `teams_share_a_name`: two ordinary projects whose jobs get one name, and two identities that are written alike.
-/
import Mathlib.Tactic
import TrainingJobs.Proofs.Job.Build
import TrainingJobs.Proofs.Text.Digest

namespace TrainingJobs.Names

/-! ## The text of an identity -/

/-- what follows the domain in the text of an identity -/
def restText (e : Execution) : String := "/" ++ e.name ++ "/" ++ e.node ++ "/" ++ Text.decimal e.attempt.toNat

theorem text_eq (e : Execution) : e.text = e.project ++ "/" ++ e.domain ++ restText e := by
  simp [Execution.text, restText, String.append_assoc]

/-- what stands before the first slash and what stands after it -/
theorem split_at_slash {a b r r' : List Char} (ha : '/' ∉ a) (hb : '/' ∉ b) (h : a ++ '/' :: r = b ++ '/' :: r') :
    a = b ∧ r = r' := by
  induction a generalizing b with
  | nil =>
    cases b with
    | nil => exact ⟨rfl, (List.cons.inj h).2⟩
    | cons c b => exact absurd ((List.cons.inj h).1 ▸ List.mem_cons_self) hb
  | cons c a ih =>
    cases b with
    | nil => exact absurd ((List.cons.inj h).1 ▸ List.mem_cons_self) ha
    | cons c' b =>
      obtain ⟨hc, hrest⟩ := List.cons.inj h
      obtain ⟨hab, hr⟩ := ih (mt (List.mem_cons_of_mem c) ha) (mt (List.mem_cons_of_mem c') hb) hrest
      exact ⟨by rw [hc, hab], hr⟩

variable {e e' : Execution}

theorem restText_eq (hname : e.name = e'.name) (hnode : e.node = e'.node) (hattempt : e.attempt = e'.attempt) :
    restText e = restText e' := by
  rw [restText, restText, hname, hnode, hattempt]

theorem joined_toList (e : Execution) :
    (e.project ++ "/" ++ e.domain).toList = e.project.toList ++ '/' :: e.domain.toList := by
  simp

/-- the text tells no more of project and domain than what the two are joined to -/
theorem text_eq_iff (hname : e.name = e'.name) (hnode : e.node = e'.node) (hattempt : e.attempt = e'.attempt) :
    e.text = e'.text ↔ e.project ++ "/" ++ e.domain = e'.project ++ "/" ++ e'.domain := by
  rw [text_eq, text_eq, restText_eq hname hnode hattempt]
  exact String.append_left_inj _

/-- where no project holds a slash, the text gives project and domain back -/
theorem text_eq_iff_of_noSlash (hname : e.name = e'.name) (hnode : e.node = e'.node)
    (hattempt : e.attempt = e'.attempt) (hproject : '/' ∉ e.project.toList) (hproject' : '/' ∉ e'.project.toList) :
    e.text = e'.text ↔ e.project = e'.project ∧ e.domain = e'.domain := by
  rw [text_eq_iff hname hnode hattempt, ← String.toList_inj, joined_toList, joined_toList]
  constructor
  · intro h
    obtain ⟨hsame, hdomain⟩ := split_at_slash hproject hproject' h
    exact ⟨String.toList_inj.1 hsame, String.toList_inj.1 hdomain⟩
  · rintro ⟨hsame, hdomain⟩
    rw [hsame, hdomain]

/-! ## What a name shows -/

/-- the part of the hash of an identity that its name shows -/
def mark (e : Execution) : UInt64 := Text.fnv (Text.utf8 e.text) >>> 32

theorem nameHash_eq (e : Execution) : e.nameHash = Text.hexDigits Execution.hashLength (mark e).toNat := by
  have hmark : (mark e).toNat = (Text.fnv (Text.utf8 e.text)).toNat / 16 ^ 8 := by
    rw [mark, UInt64.toNat_shiftRight, Nat.shiftRight_eq_div_pow]
    rfl
  have hdigits := Text.hexDigits_add Execution.hashLength 8 (Text.fnv (Text.utf8 e.text)).toNat
  rw [Execution.nameHash, Text.fingerprint, String.toList_ofList, show 16 = Execution.hashLength + 8 from rfl, hdigits,
    hmark]
  exact List.take_left' (Text.hexDigits_length _ _)

theorem nameHash_eq_iff (e e' : Execution) : e.nameHash = e'.nameHash ↔ mark e = mark e' := by
  have hlt : ∀ e, (mark e).toNat < 16 ^ Execution.hashLength := by
    intro e
    rw [mark, UInt64.toNat_shiftRight, Nat.shiftRight_eq_div_pow]
    exact Nat.div_lt_of_lt_mul (Text.fnv (Text.utf8 e.text)).toNat_lt
  rw [nameHash_eq, nameHash_eq, Text.hexDigits_eq_iff, Nat.mod_eq_of_lt (hlt e), Nat.mod_eq_of_lt (hlt e'),
    UInt64.toNat_inj]

theorem namePrefix_eq (hname : e.name = e'.name) (hnode : e.node = e'.node) (hattempt : e.attempt = e'.attempt) :
    e.namePrefix = e'.namePrefix := by
  rw [Execution.namePrefix, Execution.namePrefix, hname, hnode, hattempt]

/-- **Projects and domains are told apart by the first 8 digits of a fingerprint.** For two executions of one name, node
and attempt that both have a job name: the names are equal iff the upper halves of the hashes of their identities are.
What is hashed is the same just when project, slash and domain come to one text; where no project holds a slash, that
takes the same project and the same domain. -/
theorem names_differ_iff_marks_differ {n n' : String} (hname : e.name = e'.name) (hnode : e.node = e'.node)
    (hattempt : e.attempt = e'.attempt) (h : e.jobName = .ok n) (h' : e'.jobName = .ok n') :
    (n ≠ n' ↔ mark e ≠ mark e') ∧
    (e.text = e'.text ↔ e.project ++ "/" ++ e.domain = e'.project ++ "/" ++ e'.domain) ∧
    ('/' ∉ e.project.toList → '/' ∉ e'.project.toList → e.project ≠ e'.project ∨ e.domain ≠ e'.domain →
      e.text ≠ e'.text) := by
  refine ⟨?_, text_eq_iff hname hnode hattempt, ?_⟩
  · rw [(jobName_eq_ok h).2, (jobName_eq_ok h').2, namePrefix_eq hname hnode hattempt, ne_eq, String.ofList_inj,
      List.append_cancel_left_eq, List.cons.injEq, nameHash_eq_iff]
    simp
  · intro hproject hproject' hdiffer htext
    obtain ⟨hsame, hsame'⟩ := (text_eq_iff_of_noSlash hname hnode hattempt hproject hproject').1 htext
    exact hdiffer.elim (fun hne => hne hsame) fun hne => hne hsame'

/-- the law at two projects whose jobs get different names -/
theorem projects_apart :
    let e : Execution := { project := "proj-a", domain := "dev", name := "exec1", node := "n0" }
    let e' : Execution := { e with project := "proj-b" }
    e.jobName = .ok "exec1-n0-0-d74a4645" ∧ e'.jobName = .ok "exec1-n0-0-cf4a0a9c" ∧
      mark e ≠ mark e' ∧ "exec1-n0-0-d74a4645" ≠ "exec1-n0-0-cf4a0a9c" ∧ e.text ≠ e'.text := by
  intro e e'
  have h : e.jobName = .ok "exec1-n0-0-d74a4645" := by decide +kernel
  have h' : e'.jobName = .ok "exec1-n0-0-cf4a0a9c" := by decide +kernel
  have hmark : mark e ≠ mark e' := by decide +kernel
  have hslash : '/' ∉ e.project.toList ∧ '/' ∉ e'.project.toList := by decide +kernel
  have hproject : e.project ≠ e'.project := by decide +kernel
  obtain ⟨hnames, _, htexts⟩ := @names_differ_iff_marks_differ e e' _ _ rfl rfl rfl h h'
  exact ⟨h, h', hmark, hnames.2 hmark, htexts hslash.1 hslash.2 (.inl hproject)⟩

/-- **Executions of different projects whose jobs get one name.** The first 8 digits of the fingerprints of two ordinary
projects agree; and two identities are written as one text, because a project holds the slash. -/
theorem teams_share_a_name :
    let e : Execution := { project := "team-60826", domain := "dev", name := "exec1", node := "n0" }
    let e' : Execution := { e with project := "team-169599" }
    let nested : Execution := { e with project := "a/b", domain := "c" }
    let split : Execution := { e with project := "a", domain := "b/c" }
    (e.project ≠ e'.project ∧ e.jobName = .ok "exec1-n0-0-99e5257c" ∧ e'.jobName = .ok "exec1-n0-0-99e5257c") ∧
      nested.project ≠ split.project ∧ nested.text = split.text ∧
        nested.jobName = .ok "exec1-n0-0-c7e0bde1" ∧ split.jobName = .ok "exec1-n0-0-c7e0bde1" := by
  decide +kernel

end TrainingJobs.Names
