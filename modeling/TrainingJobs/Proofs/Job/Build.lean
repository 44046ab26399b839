/-
What a draft must say to become a submission, what the submission keeps of it, and where its roles stand in a manifest.

- `build_eq_ok_iff`: the checks that a draft passes, and the submission it comes to;
- `settledRoles_eq_ok`: its roles are those declared, each settled on its own;
- `lowerCase_roleKey`: the key of a role gives its name back, so no two roles share one;
- `Built.find?_replicas`: each role has its own entry in the manifest.
-/
import TrainingJobs.Job.Draft
import TrainingJobs.Job.Manifest
import TrainingJobs.Proofs.Fallible

namespace TrainingJobs

/-! ## Labels -/

theorem checkLabel_eq_ok_iff (value what : String) : checkLabel value what = .ok () ↔ Text.isLabel value = true := by
  unfold checkLabel
  split_ifs with hempty hlong hform
  · have hnil : value.toList = [] := by simpa using hempty
    simp [Text.isLabel, Text.hasLabelForm, hnil]
  · simp [Text.isLabel, Nat.not_le.2 hlong]
  · simp [Text.isLabel, show Text.hasLabelForm value.toList = false by simpa using hform]
  · simp [Text.isLabel, Nat.le_of_not_lt hlong, show Text.hasLabelForm value.toList = true by simpa using hform]

theorem isLabelChar_of_isLabel {s : String} (h : Text.isLabel s = true) :
    ∀ c ∈ s.toList, Text.isLabelChar c = true := by
  simp only [Text.isLabel, Text.hasLabelForm, Bool.and_eq_true] at h
  exact List.all_eq_true.1 h.2.1.1

/-- the name of a job is its prefix, a dash and the digits of its hash -/
theorem jobName_eq_ok {e : Execution} {name : String} (h : e.jobName = .ok name) :
    Text.isLabel name = true ∧ name = String.ofList (e.namePrefix ++ '-' :: e.nameHash) := by
  unfold Execution.jobName at h
  split_ifs at h
  obtain ⟨_, hlabel, h⟩ := of_bind_eq_ok h
  rw [← Except.ok.inj h]
  exact ⟨(checkLabel_eq_ok_iff _ _).1 hlabel, rfl⟩

/-- the characters of labels are ASCII, so that what holds of each can be tried out -/
theorem of_isLabelChar {p : Char → Prop} [DecidablePred p]
    (hall : ∀ n < 128, Text.isLabelChar (Char.ofNat n) = true → p (Char.ofNat n)) {c : Char}
    (h : Text.isLabelChar c = true) : p c := by
  have hascii : c.toNat < 128 := by
    simp only [Text.isLabelChar, Text.isLowerAlnum, Bool.or_eq_true, Bool.and_eq_true, decide_eq_true_eq, beq_iff_eq,
      Char.le_def, Char.ext_iff, UInt32.le_iff_toNat_le, ← UInt32.toNat_inj] at h
    simp at h
    omega
  have hc := hall c.toNat hascii
  rw [Char.ofNat_toNat] at hc
  exact hc h

theorem lowerCase_roleKey {role : String} (h : Text.isLabel role = true) : lowerCase (roleKey role) = role := by
  have hchars := isLabelChar_of_isLabel h
  unfold roleKey
  cases hrole : role.toList with
  | nil => rw [← String.ofList_toList (s := role), hrole]; rfl
  | cons c rest =>
    rw [hrole] at hchars
    have hfirst : c.toUpper.toLower = c :=
      of_isLabelChar (p := fun c => c.toUpper.toLower = c) (by decide +kernel) (hchars c List.mem_cons_self)
    have hrest : rest.map Char.toLower = rest.map id := List.map_congr_left fun c hc =>
      of_isLabelChar (p := fun c => c.toLower = c) (by decide +kernel) (hchars c (List.mem_cons_of_mem _ hc))
    rw [lowerCase, String.toList_ofList, List.map_cons, hfirst, hrest, List.map_id, ← hrole, String.ofList_toList]

namespace JobDraft

/-! ## Roles -/

/-- a declared role with its open choices settled, if it has an image -/
def resolved (d : JobDraft) (spec : RoleSpec) : Role where
  replicas := spec.replicas
  restartPolicy := spec.restartPolicy.getD .never
  resources := spec.resources
  image := (spec.image.or d.defaultImage).getD ""
  command := spec.command
  env := spec.env

/-- a declaration of a role passes the checks that do not concern the other roles -/
structure Accepts (d : JobDraft) (declared : String × RoleSpec) : Prop where
  label : Text.isLabel declared.1 = true
  masters : ¬ (isMasterRole declared.1 = true ∧ 1 < declared.2.replicas)
  image : (declared.2.image.or d.defaultImage).isSome = true

theorem settle_eq_ok {d : JobDraft} {name : String} {spec : RoleSpec} {role : Role}
    (h : d.settle name spec = .ok role) :
    ¬ (isMasterRole name = true ∧ 1 < spec.replicas) ∧ (spec.image.or d.defaultImage).isSome = true ∧
      role = d.resolved spec := by
  unfold settle at h
  split_ifs at h with hmasters
  split at h
  · cases h
  · rename_i image himage
    refine ⟨by simpa using hmasters, by rw [himage]; rfl, ?_⟩
    rw [← Except.ok.inj h, resolved, himage, Option.getD_some]

theorem addRole_eq_ok {d : JobDraft} {roles out : Dict Role} {declared : String × RoleSpec}
    (h : d.addRole roles declared = .ok out) : d.Accepts declared ∧ declared.1 ∉ roles.names ∧
      out = roles.insert declared.1 (d.resolved declared.2) := by
  unfold addRole at h
  obtain ⟨_, hlabel, h⟩ := of_bind_eq_ok h
  split_ifs at h with htwice
  · cases h
  · obtain ⟨role, hsettle, h⟩ := of_bind_eq_ok h
    obtain ⟨hmasters, himage, rfl⟩ := settle_eq_ok hsettle
    exact ⟨⟨(checkLabel_eq_ok_iff _ _).1 hlabel, hmasters, himage⟩, mt (roles.contains_iff declared.1).2 htwice,
      (Except.ok.inj h).symm⟩

theorem foldlM_addRole {d : JobDraft} {declared : List (String × RoleSpec)} {roles out : Dict Role}
    (h : declared.foldlM d.addRole roles = .ok out) : (∀ e ∈ declared, d.Accepts e) ∧
      (roles.names ++ declared.map (·.1)).Nodup ∧
      out = declared.foldl (fun roles e => roles.insert e.1 (d.resolved e.2)) roles := by
  induction declared generalizing roles with
  | nil =>
    rw [List.map_nil, List.append_nil]
    exact ⟨fun e he => absurd he List.not_mem_nil, roles.names_nodup, (Except.ok.inj h).symm⟩
  | cons first rest ih =>
    rw [List.foldlM_cons] at h
    obtain ⟨more, hmore, h⟩ := of_bind_eq_ok h
    obtain ⟨hfirst, hnew, rfl⟩ := addRole_eq_ok hmore
    obtain ⟨hrest, hnodup, hout⟩ := ih h
    have hinsert : (roles.insert first.1 (d.resolved first.2)).names.Perm (first.1 :: roles.names) :=
      (Dict.insertEntry_perm (d.resolved first.2) hnew).map Prod.fst
    refine ⟨List.forall_mem_cons.2 ⟨hfirst, hrest⟩, ?_, hout⟩
    exact (((hinsert.append_right _).trans List.perm_middle.symm).nodup_iff).1 hnodup

theorem addRoles_eq_ok {d : JobDraft} {declared : List (String × RoleSpec)} {roles : Dict Role}
    (h : declared.foldlM d.addRole ∅ = .ok roles) : (∀ e ∈ declared, d.Accepts e) ∧ (declared.map (·.1)).Nodup ∧
      roles = .ofList (declared.map fun e => (e.1, d.resolved e.2)) := by
  obtain ⟨haccepts, hnodup, hroles⟩ := foldlM_addRole h
  refine ⟨haccepts, hnodup, ?_⟩
  rw [hroles, Dict.ofList, List.foldl_map]
  rfl

theorem entries_perm_of_addRoles {d : JobDraft} {declared : List (String × RoleSpec)} {roles : Dict Role}
    (h : declared.foldlM d.addRole ∅ = .ok roles) :
    roles.entries.Perm (declared.map fun e => (e.1, d.resolved e.2)) := by
  obtain ⟨_, hnodup, rfl⟩ := addRoles_eq_ok h
  exact Dict.entries_ofList_perm (by rwa [List.map_map])

theorem names_perm_of_addRoles {d : JobDraft} {declared : List (String × RoleSpec)} {roles : Dict Role}
    (h : declared.foldlM d.addRole ∅ = .ok roles) : roles.names.Perm (declared.map (·.1)) := by
  have hperm := (entries_perm_of_addRoles h).map Prod.fst
  rwa [List.map_map] at hperm

theorem find?_of_addRoles {d : JobDraft} {declared : List (String × RoleSpec)} {roles : Dict Role}
    (h : declared.foldlM d.addRole ∅ = .ok roles) (name : String) (role : Role) :
    roles.find? name = some role ↔ ∃ e ∈ declared, e.1 = name ∧ d.resolved e.2 = role := by
  rw [Dict.find?_eq_some_iff, (entries_perm_of_addRoles h).mem_iff, List.mem_map]
  simp only [Prod.mk.injEq]

/-- the roles of a draft that passes its checks are those declared, each under its own name -/
theorem settledRoles_eq_ok {d : JobDraft} {roles : Dict Role} (h : d.settledRoles = .ok roles) :
    (∀ e ∈ d.roles, d.Accepts e) ∧ (d.roles.map (·.1)).Nodup ∧
      roles = .ofList (d.roles.map fun e => (e.1, d.resolved e.2)) :=
  addRoles_eq_ok h

/-! ## Submissions -/

/-- the draft passes its checks and comes to the submission -/
structure Built (d : JobDraft) (s : Submission) : Prop where
  declared : d.roles ≠ []
  roles : d.settledRoles = .ok s.roles
  required : d.required.names.forM (checkRequired s.roles) = .ok ()
  id : d.execution.jobName = .ok s.id
  execution : s.execution = d.execution
  content : s.content = d.content s.roles
  contentHash : s.contentHash = s.content.hash

theorem build_eq_ok_iff (d : JobDraft) (s : Submission) : d.build = .ok s ↔ d.Built s := by
  unfold build
  constructor
  · intro h
    by_cases hdeclared : d.roles.isEmpty = true
    · rw [if_pos hdeclared] at h
      cases h
    · rw [if_neg hdeclared] at h
      obtain ⟨roles, hroles, h⟩ := of_bind_eq_ok h
      obtain ⟨_, hrequired, h⟩ := of_bind_eq_ok h
      obtain ⟨id, hid, h⟩ := of_bind_eq_ok h
      cases h
      exact ⟨by simpa using hdeclared, hroles, hrequired, hid, rfl, rfl, rfl⟩
  · intro h
    have hdeclared : ¬ d.roles.isEmpty = true := by simpa using h.declared
    have hrequired := h.required
    rw [if_neg hdeclared, h.roles]
    simp only [bind, Except.bind, pure, Except.pure] at hrequired ⊢
    rw [hrequired, h.id]
    simp only [← h.content, ← h.contentHash, ← h.execution]

/-- the roles of a submission are those declared, each settled on its own -/
theorem Built.roles_eq {d : JobDraft} {s : Submission} (h : d.Built s) :
    s.roles = .ofList (d.roles.map fun e => (e.1, d.resolved e.2)) :=
  (settledRoles_eq_ok h.roles).2.2

theorem Built.entries_perm {d : JobDraft} {s : Submission} (h : d.Built s) :
    s.roles.entries.Perm (d.roles.map fun e => (e.1, d.resolved e.2)) :=
  entries_perm_of_addRoles h.roles

theorem Built.isLabel {d : JobDraft} {s : Submission} (h : d.Built s) {name : String} {role : Role}
    (hrole : (name, role) ∈ s.roles.entries) : Text.isLabel name = true := by
  obtain ⟨declared, hdeclared, hname⟩ := List.mem_map.1 (h.entries_perm.mem_iff.1 hrole)
  rw [← show declared.1 = name from congrArg Prod.fst hname]
  exact ((settledRoles_eq_ok h.roles).1 declared hdeclared).label

theorem Built.keys_nodup {d : JobDraft} {s : Submission} (h : d.Built s) :
    (s.roles.entries.map fun e => roleKey e.1).Nodup := by
  have hnames : (s.roles.entries.map fun e => roleKey e.1).map lowerCase = s.roles.names := by
    rw [List.map_map]
    exact List.map_congr_left fun e he => lowerCase_roleKey (h.isLabel he)
  exact List.Nodup.of_map lowerCase (hnames ▸ s.roles.names_nodup)

/-- the manifest has one entry for each role -/
theorem Built.replicas_perm {d : JobDraft} {s : Submission} (h : d.Built s) (ns : String) :
    (Manifest.ofSubmission s ns).replicas.entries.Perm
      (s.roles.entries.map fun e => (roleKey e.1, Manifest.replicaOf s.content.sharedMemory e.2)) := by
  refine Dict.entries_ofList_perm ?_
  rw [List.map_map]
  exact h.keys_nodup

/-- each role of a submission has its own entry in the manifest -/
theorem Built.find?_replicas {d : JobDraft} {s : Submission} (h : d.Built s) (ns : String) {name : String} {role : Role}
    (hrole : (name, role) ∈ s.roles.entries) : (Manifest.ofSubmission s ns).replicas.find? (roleKey name) =
      some (Manifest.replicaOf s.content.sharedMemory role) := by
  rw [Dict.find?_eq_some_iff, (h.replicas_perm ns).mem_iff]
  exact List.mem_map.2 ⟨(name, role), hrole, rfl⟩

end JobDraft

end TrainingJobs
