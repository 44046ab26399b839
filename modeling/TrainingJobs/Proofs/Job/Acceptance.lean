/-
Which drafts are built, and what becomes of them. The checks of a draft stop at the first fault they meet; here each
refusal is traced to a fault that the draft has, no valid draft has one, and a draft without any is built as it stands.

- `faulty_of_build_eq_error`: a refusal tells a fault of the draft;
- `Faulty.not_valid`, `Built.valid`: a draft with a fault is not valid, and one that is built is;
- `Built.keeps`: what a submission has from its draft;
- `valid_drafts_are_built`: all of it, for every draft and for all calls on one.
-/
import TrainingJobs.Proofs.Job.Calls
import TrainingJobs.Proofs.Job.LegalNames
import TrainingJobs.Proofs.Status.RoleNames

namespace TrainingJobs.JobDraft

/-! ## Valid drafts and their faults -/

variable {d : JobDraft}

/-- all that a draft must say to be built -/
structure Valid (d : JobDraft) : Prop where
  declared : d.roles ≠ []
  labels : ∀ e ∈ d.roles, Text.Label e.1
  distinct : (d.roles.map (·.1)).Nodup
  masters : ∀ e ∈ d.roles, e.1 = masterRole → e.2.replicas ≤ 1
  images : ∀ e ∈ d.roles, e.2.image.isSome ∨ d.defaultImage.isSome
  required : ∀ name ∈ d.required.names, ∃ e ∈ d.roles, e.1 = name ∧ 0 < e.2.replicas
  usable : d.execution.Usable

/-- the draft has the fault that is told -/
def Faulty (d : JobDraft) : Misconfiguration → Prop
  | .noRoles => d.roles = []
  | .emptyLabel what => what = "role name" ∧ ∃ e ∈ d.roles, e.1 = ""
  | .longLabel what name => what = "role name" ∧ (∃ e ∈ d.roles, e.1 = name) ∧ 63 < name.utf8ByteSize
  | .malformedLabel what name => what = "role name" ∧ (∃ e ∈ d.roles, e.1 = name) ∧ ¬ Text.Label name
  | .roleTwice name => 1 < (d.roles.map (·.1)).count name
  | .manyMasters replicas => 1 < replicas ∧ ∃ e ∈ d.roles, e.1 = masterRole ∧ e.2.replicas = replicas
  | .noImage name => d.defaultImage = none ∧ ∃ e ∈ d.roles, e.1 = name ∧ e.2.image = none
  | .undeclaredRole name => name ∈ d.required.names ∧ ∀ e ∈ d.roles, e.1 ≠ name
  | .idleRole name => name ∈ d.required.names ∧ ∃ e ∈ d.roles, e.1 = name ∧ e.2.replicas = 0
  | .unusableName execution => execution = d.execution.text ∧ ¬ d.execution.Usable
  | _ => False

theorem Faulty.not_valid {cause : Misconfiguration} (h : d.Faulty cause) : ¬ d.Valid := by
  intro hvalid
  cases cause with
  | noRoles => exact hvalid.declared h
  | emptyLabel what =>
    obtain ⟨_, e, he, hname⟩ := h
    exact (hvalid.labels e he).nonempty (by rw [hname]; rfl)
  | longLabel what name =>
    obtain ⟨_, ⟨e, he, rfl⟩, hlong⟩ := h
    exact absurd (hvalid.labels e he).short (not_le.2 hlong)
  | malformedLabel what name =>
    obtain ⟨_, ⟨e, he, rfl⟩, hlabel⟩ := h
    exact hlabel (hvalid.labels e he)
  | roleTwice name => exact absurd (List.nodup_iff_count_le_one.1 hvalid.distinct name) (not_le.2 h)
  | manyMasters replicas =>
    obtain ⟨hmany, e, he, hname, rfl⟩ := h
    exact absurd (hvalid.masters e he hname) (UInt32.not_le.2 hmany)
  | noImage name =>
    obtain ⟨hdefault, e, he, _, himage⟩ := h
    rcases hvalid.images e he with hsome | hsome
    · rw [himage] at hsome
      cases hsome
    · rw [hdefault] at hsome
      cases hsome
  | undeclaredRole name =>
    obtain ⟨hrequired, hmissing⟩ := h
    obtain ⟨e, he, hname, _⟩ := hvalid.required name hrequired
    exact hmissing e he hname
  | idleRole name =>
    obtain ⟨hrequired, e, he, hname, hidle⟩ := h
    obtain ⟨e', he', hname', hbusy⟩ := hvalid.required name hrequired
    have hsame : e = e' := List.inj_on_of_nodup_map hvalid.distinct he he' (hname.trans hname'.symm)
    rw [← hsame, hidle] at hbusy
    exact absurd hbusy (by decide)
  | unusableName execution => exact h.2 hvalid.usable
  | _ => exact h

/-! ## Refusals -/

theorem faulty_of_settle {e : String × RoleSpec} {cause : Misconfiguration} (he : e ∈ d.roles)
    (hlabel : Text.isLabel e.1 = true) (h : d.settle e.1 e.2 = .error cause) : d.Faulty cause := by
  unfold settle at h
  split_ifs at h with hmasters
  · cases h
    rw [Bool.and_eq_true, decide_eq_true_iff, isMasterRole_iff_of_isLabel hlabel] at hmasters
    exact ⟨hmasters.2, e, he, hmasters.1, rfl⟩
  · split at h
    · next himage =>
      cases h
      obtain ⟨hown, hdefault⟩ := Option.or_eq_none_iff.1 himage
      exact ⟨hdefault, e, he, rfl, hown⟩
    · cases h

theorem faulty_of_checkLabel {e : String × RoleSpec} {cause : Misconfiguration} (he : e ∈ d.roles)
    (h : checkLabel e.1 "role name" = .error cause) : d.Faulty cause := by
  have hlabel : ¬ Text.Label e.1 := by
    intro hlabel
    rw [(checkLabel_eq_ok_iff e.1 "role name").2 ((Text.isLabel_iff e.1).2 hlabel)] at h
    cases h
  unfold checkLabel at h
  split_ifs at h with hempty hlong
  · cases h
    exact ⟨rfl, e, he, String.isEmpty_iff.1 hempty⟩
  · cases h
    exact ⟨rfl, ⟨e, he, rfl⟩, hlong⟩
  · cases h
    exact ⟨rfl, ⟨e, he, rfl⟩, hlabel⟩

theorem faulty_of_settledRoles {cause : Misconfiguration} (h : d.settledRoles = .error cause) : d.Faulty cause := by
  obtain ⟨before, e, after, roles, hsplit, hbefore, h⟩ := of_foldlM_eq_error h
  have he : e ∈ d.roles := by
    rw [hsplit]
    exact List.mem_append_right _ List.mem_cons_self
  unfold addRole at h
  rcases of_bind_eq_error h with h | ⟨_, hlabel, h⟩
  · exact faulty_of_checkLabel he h
  split_ifs at h with htwice
  · cases h
    -- what has been added so far goes by the names declared so far, this one among them
    have hearlier : e.1 ∈ before.map (·.1) :=
      (names_perm_of_addRoles hbefore).mem_iff.1 ((roles.contains_iff e.1).1 htwice)
    have hcount : 0 < (before.map (·.1)).count e.1 := List.count_pos_iff.2 hearlier
    change 1 < (d.roles.map (·.1)).count e.1
    rw [hsplit, List.map_append, List.count_append, List.map_cons, List.count_cons_self]
    omega
  · rcases of_bind_eq_error h with h | ⟨_, _, h⟩
    · exact faulty_of_settle he ((checkLabel_eq_ok_iff _ _).1 hlabel) h
    · cases h

theorem faulty_of_checkRequired {roles : Dict Role} {name : String} {cause : Misconfiguration}
    (hroles : d.settledRoles = .ok roles) (hname : name ∈ d.required.names)
    (h : checkRequired roles name = .error cause) : d.Faulty cause := by
  unfold checkRequired at h
  split at h
  · next hnone =>
    cases h
    refine ⟨hname, fun e he hsame => ?_⟩
    rw [(find?_of_addRoles hroles name _).2 ⟨e, he, hsame, rfl⟩] at hnone
    cases hnone
  · next role hsome =>
    split_ifs at h with hidle
    cases h
    obtain ⟨e, he, hsame, rfl⟩ := (find?_of_addRoles hroles name role).1 hsome
    exact ⟨hname, e, he, hsame, hidle⟩

/-- **A refusal tells a fault that the draft has.** -/
theorem faulty_of_build_eq_error {cause : Misconfiguration} (h : d.build = .error cause) : d.Faulty cause := by
  unfold build at h
  by_cases hdeclared : d.roles.isEmpty = true
  · rw [if_pos hdeclared] at h
    cases h
    exact List.isEmpty_iff.1 hdeclared
  rw [if_neg hdeclared] at h
  rcases of_bind_eq_error h with h | ⟨roles, hroles, h⟩
  · exact faulty_of_settledRoles h
  rcases of_bind_eq_error h with h | ⟨_, _, h⟩
  · obtain ⟨name, hname, h⟩ := of_forM_eq_error h
    exact faulty_of_checkRequired hroles hname h
  rcases of_bind_eq_error h with h | ⟨_, _, h⟩
  · obtain ⟨rfl, hunusable⟩ := Execution.of_jobName_eq_error h
    exact ⟨rfl, hunusable⟩
  · cases h

/-! ## Drafts that are built -/

theorem Built.valid {s : Submission} (h : d.Built s) : d.Valid := by
  obtain ⟨haccepts, hnodup, _⟩ := settledRoles_eq_ok h.roles
  have husable : d.execution.Usable := Execution.usable_of_jobName h.id
  refine ⟨h.declared, fun e he => (Text.isLabel_iff e.1).1 (haccepts e he).label, hnodup, ?_, ?_, ?_, husable⟩
  · intro e he hname
    have hmaster : isMasterRole e.1 = true := (isMasterRole_iff_of_isLabel (haccepts e he).label).2 hname
    exact UInt32.not_lt.1 fun hmany => (haccepts e he).masters ⟨hmaster, hmany⟩
  · intro e he
    have himage := (haccepts e he).image
    rwa [Option.isSome_or, Bool.or_eq_true] at himage
  · intro name hname
    have hcheck := forM_eq_ok_iff.1 h.required name hname
    unfold checkRequired at hcheck
    split at hcheck
    · cases hcheck
    · next role hrole =>
      split_ifs at hcheck with hidle
      obtain ⟨e, he, hsame, rfl⟩ := (find?_of_addRoles h.roles name role).1 hrole
      exact ⟨e, he, hsame, UInt32.pos_iff_ne_zero.2 hidle⟩

/-- a declared role as it is submitted: what it leaves open is the default image and never to restart -/
structure Settled (d : JobDraft) (spec : RoleSpec) (role : Role) : Prop where
  replicas : role.replicas = spec.replicas
  resources : role.resources = spec.resources
  command : role.command = spec.command
  env : role.env = spec.env
  image : some role.image = spec.image.or d.defaultImage
  restartPolicy : role.restartPolicy = spec.restartPolicy.getD .never

theorem settled_resolved {spec : RoleSpec} (h : (spec.image.or d.defaultImage).isSome = true) :
    d.Settled spec (d.resolved spec) := by
  obtain ⟨image, himage⟩ := Option.isSome_iff_exists.1 h
  exact ⟨rfl, rfl, rfl, rfl, by rw [resolved, himage, Option.getD_some], rfl⟩

/-- what a submission has from its draft -/
structure Keeps (d : JobDraft) (s : Submission) : Prop where
  execution : s.execution = d.execution
  names : s.roles.names.Perm (d.roles.map (·.1))
  roles : ∀ e ∈ d.roles, ∃ role, s.roles.find? e.1 = some role ∧ d.Settled e.2 role
  runPolicy : s.content.runPolicy = d.runPolicy
  sharedMemory : s.content.sharedMemory = d.sharedMemory

theorem Built.keeps {s : Submission} (h : d.Built s) : d.Keeps s := by
  refine ⟨h.execution, names_perm_of_addRoles h.roles, fun e he => ?_, ?_, ?_⟩
  · have hfound := (find?_of_addRoles h.roles e.1 (d.resolved e.2)).2 ⟨e, he, rfl, rfl⟩
    have himage := ((settledRoles_eq_ok h.roles).1 e he).image
    exact ⟨d.resolved e.2, hfound, settled_resolved himage⟩
  · rw [h.content]
    rfl
  · rw [h.content]
    rfl

theorem build_isOk_iff (d : JobDraft) : (∃ s, d.build = .ok s) ↔ d.Valid := by
  constructor
  · rintro ⟨s, hs⟩
    exact ((d.build_eq_ok_iff s).1 hs).valid
  · intro hvalid
    cases hbuild : d.build with
    | ok s => exact ⟨s, rfl⟩
    | error cause => exact absurd hvalid (faulty_of_build_eq_error hbuild).not_valid

/-- **Valid drafts are built, as they stand, and no others.** A draft is built just when it is valid. A refusal is an
error of the configuration and tells a fault that the draft has. A submission has the roles of its draft, each under its
name with what is declared of it, and the run policy and shared memory of the draft. Of calls on a draft all roles and
required names count, and the last one of each other kind. -/
theorem valid_drafts_are_built :
    (∀ d : JobDraft, ((∃ s, d.build = .ok s) ↔ d.Valid) ∧
      (∀ e, d.build.mapError Error.configuration = .error e → ∃ cause, e = .configuration cause ∧ d.Faulty cause) ∧
      ∀ s, d.build = .ok s → d.Keeps s) ∧
    ∀ execution calls, (run execution calls).Collects execution calls := by
  refine ⟨fun d => ⟨d.build_isOk_iff, fun e he => ?_, fun s hs => ((d.build_eq_ok_iff s).1 hs).keeps⟩, run_collects⟩
  cases hbuild : d.build with
  | ok s =>
    rw [hbuild] at he
    cases he
  | error cause =>
    rw [hbuild] at he
    cases he
    exact ⟨cause, rfl, faulty_of_build_eq_error hbuild⟩

/-- calls that leave some choices open and take back others -/
def changes : List DraftCall :=
  [.defaultImage "trainer:0.9", .role workerRole { replicas := 2, command := ["train"] }, .requireRole workerRole,
    .runPolicy { backoffLimit := some 1 }, .sharedMemory true, .defaultImage "trainer:1.0",
    .role masterRole { replicas := 1, image := some "lead:1.0", restartPolicy := some .onFailure },
    .runPolicy { backoffLimit := some 3 }]

/-- the law at these calls: what was said last stands, also for a role declared before -/
theorem last_word_stands : ∃ s, (run { name := "Train 7" } changes).build = .ok s ∧
    s.content.runPolicy = { backoffLimit := some 3 } ∧ s.content.sharedMemory = true ∧
    ∃ worker, s.roles.find? workerRole = some worker ∧ worker.image = "trainer:1.0" ∧ worker.command = ["train"] ∧
      worker.restartPolicy = .never := by
  obtain ⟨s, hs⟩ := eq_ok_of_isSome
    (show (run { name := "Train 7" } changes).build.toOption.isSome = true by decide +kernel)
  obtain ⟨hdrafts, hcalls⟩ := valid_drafts_are_built
  obtain ⟨_, _, hkept⟩ := hdrafts (run { name := "Train 7" } changes)
  have hkeeps := hkept s hs
  have hcollects := hcalls { name := "Train 7" } changes
  obtain ⟨worker, hworker, hsettled⟩ := hkeeps.roles (workerRole, { replicas := 2, command := ["train"] })
    (by rw [hcollects.roles]; decide)
  have himage := hsettled.image
  rw [hcollects.defaultImage] at himage
  exact ⟨s, hs, hkeeps.runPolicy.trans hcollects.runPolicy, hkeeps.sharedMemory.trans hcollects.sharedMemory, worker,
    hworker, Option.some.inj himage, hsettled.command, hsettled.restartPolicy⟩

/-- of several faults the one met first is told -/
example : (run { name := "train" } [.requireRole "ps", .role "Worker" { image := some "trainer:1.0" },
    .role masterRole { replicas := 2 }]).build = .error (.malformedLabel "role name" "Worker") := by
  decide +kernel

end TrainingJobs.JobDraft
