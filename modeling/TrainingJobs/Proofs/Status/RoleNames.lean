/-
Role names on their way to the operator and back. A manifest names a role with a capital, the operator reports under
that key, and a snapshot puts the key in lower case. Labels come back from that unchanged, so that what is reported of a
role of a job is found under the role's own name, the coordinating one among them.

- `lowerCase_of_mem_keys`: each key of a manifest is that of one role, whose name it gives back;
- `find?_operatorRoles`: what a snapshot has under a name;
- `master?_operatorRoles`: what it takes for the coordinating role;
- `roles_come_back`: all of it for every job that is built and every report on it.
-/
import TrainingJobs.Proofs.Job.Build
import TrainingJobs.Proofs.Status.Operator
import TrainingJobs.Proofs.Status.Rules

namespace TrainingJobs

open scoped List

/-! ## Names and keys -/

/-- the one label that designates the coordinating role -/
theorem isMasterRole_iff_of_isLabel {name : String} (h : Text.isLabel name = true) :
    isMasterRole name = true ↔ name = masterRole := by
  rw [← lowerCase_roleKey h, isMasterRole_lowerCase, beq_iff_eq]

namespace JobDraft.Built

variable {d : JobDraft} {s : Submission} (h : d.Built s)
include h

theorem isLabel_of_mem {name : String} (hname : name ∈ s.roles.names) : Text.isLabel name = true := by
  obtain ⟨e, he, rfl⟩ := List.mem_map.1 hname
  exact h.isLabel he

/-- the keys of the manifest are those of the roles -/
theorem keys_perm (ns : String) :
    (Manifest.ofSubmission s ns).replicas.names.Perm (s.roles.names.map roleKey) := by
  calc (Manifest.ofSubmission s ns).replicas.names
    _ ~ _ := (h.replicas_perm ns).map Prod.fst
    _ = s.roles.entries.map fun e => roleKey e.1 := List.map_map
    _ = s.roles.names.map roleKey := (s.roles.map_names roleKey).symm

/-- in lower case the key of a role is its name again -/
theorem lowerCase_of_mem_keys {ns key : String} (hkey : key ∈ (Manifest.ofSubmission s ns).replicas.names) :
    lowerCase key ∈ s.roles.names ∧ roleKey (lowerCase key) = key := by
  obtain ⟨name, hname, rfl⟩ := List.mem_map.1 ((h.keys_perm ns).mem_iff.1 hkey)
  rw [lowerCase_roleKey (h.isLabel_of_mem hname)]
  exact ⟨hname, rfl⟩

end JobDraft.Built

/-! ## Reports on a job -/

/-- the counts of a role are those that the operator gives, where a negative or absent one stands for none -/
structure RoleStatus.Tallies (r : RoleStatus) (reported : OperatorReplicas) : Prop where
  active : r.replicas.active.toNat = amount reported.active
  succeeded : r.replicas.succeeded.toNat = amount reported.succeeded
  failed : r.replicas.failed.toNat = amount reported.failed

theorem RoleStatus.tallies_ofCounts (reported : OperatorReplicas) : (ofCounts reported.counts).Tallies reported :=
  ⟨count_toNat _, count_toNat _, count_toNat _⟩

/-- the operator reports on roles of the job only -/
def OperatorStatus.Concerns (status : OperatorStatus) (m : Manifest) : Prop :=
  ∀ key ∈ status.replicas.names, key ∈ m.replicas.names

instance (status : OperatorStatus) (m : Manifest) : Decidable (status.Concerns m) :=
  inferInstanceAs (Decidable (∀ key ∈ status.replicas.names, _))

namespace Snapshot

section

variable {d : JobDraft} {s : Submission} {ns : String} {status : OperatorStatus} (h : d.Built s)
  (hstatus : status.Concerns (Manifest.ofSubmission s ns))
include h hstatus

theorem map_roleKey_lowerCase : (status.replicas.names.map lowerCase).map roleKey = status.replicas.names := by
  calc (status.replicas.names.map lowerCase).map roleKey
    _ = status.replicas.names.map fun key => roleKey (lowerCase key) := List.map_map
    _ = status.replicas.names.map id :=
      List.map_congr_left fun key hkey => (h.lowerCase_of_mem_keys (hstatus key hkey)).2
    _ = status.replicas.names := List.map_id _

/-- no two reported keys differ in case only -/
theorem nodup_lowerCase : (status.replicas.names.map lowerCase).Nodup :=
  List.Nodup.of_map roleKey ((map_roleKey_lowerCase h hstatus).symm ▸ status.replicas.names_nodup)

theorem names_operatorRoles_perm : ((operatorRoles status).names.map roleKey).Perm status.replicas.names := by
  have hnames : (operatorRoles status).names ~ status.replicas.names.map lowerCase := by
    calc (operatorRoles status).names
      _ ~ _ := (operatorRoles_perm (nodup_lowerCase h hstatus)).map Prod.fst
      _ = status.replicas.entries.map fun e => lowerCase e.1 := List.map_map
      _ = status.replicas.names.map lowerCase := (status.replicas.map_names lowerCase).symm
  calc (operatorRoles status).names.map roleKey
    _ ~ (status.replicas.names.map lowerCase).map roleKey := hnames.map roleKey
    _ = status.replicas.names := map_roleKey_lowerCase h hstatus

/-- under the name of a role of the job there is what is reported under its key, under any other name nothing -/
theorem find?_operatorRoles (name : String) (r : RoleStatus) : (operatorRoles status).find? name = some r ↔
    name ∈ s.roles.names ∧ ∃ reported, status.replicas.find? (roleKey name) = some reported ∧
      r = .ofCounts reported.counts := by
  rw [Dict.find?_eq_some_iff, (operatorRoles_perm (nodup_lowerCase h hstatus)).mem_iff, List.mem_map]
  constructor
  · rintro ⟨⟨key, reported⟩, he, hsame⟩
    cases hsame
    obtain ⟨hname, hkey⟩ := h.lowerCase_of_mem_keys (hstatus key (List.mem_map.2 ⟨_, he, rfl⟩))
    refine ⟨hname, reported, ?_, rfl⟩
    rw [hkey]
    exact (status.replicas.find?_eq_some_iff _ _).2 he
  · rintro ⟨hname, reported, hreported, rfl⟩
    refine ⟨(roleKey name, reported), (status.replicas.find?_eq_some_iff _ _).1 hreported, ?_⟩
    rw [lowerCase_roleKey (h.isLabel_of_mem hname)]

/-- the role taken for the coordinating one is that of the job, if it is reported -/
theorem master?_operatorRoles (job : String) : (ofOperator job (some status)).master? =
    (s.roles.names.find? isMasterRole).bind fun name => ((operatorRoles status).find? name).map (Prod.mk name) := by
  have hown : ∀ e ∈ (operatorRoles status).entries, e.1 ∈ s.roles.names := fun e he =>
    ((find?_operatorRoles h hstatus e.1 e.2).1 (((operatorRoles status).find?_eq_some_iff _ _).2 he)).1
  cases hfind : s.roles.names.find? isMasterRole with
  | none =>
    refine (master?_eq_none_iff _).2 fun e he => ?_
    simpa using List.find?_eq_none.1 hfind e.1 (hown e he)
  | some name =>
    have hmaster : isMasterRole name = true := List.find?_some hfind
    have hname : name ∈ s.roles.names := List.mem_of_find?_eq_some hfind
    -- labels have no capitals, so a second name cannot designate the coordinating role
    have honly : ∀ e ∈ (operatorRoles status).entries, isMasterRole e.1 = true → e.1 = name := fun e he hrole =>
      ((isMasterRole_iff_of_isLabel (h.isLabel_of_mem (hown e he))).1 hrole).trans
        ((isMasterRole_iff_of_isLabel (h.isLabel_of_mem hname)).1 hmaster).symm
    rw [Option.bind_some]
    cases hfound : (ofOperator job (some status)).master? with
    | none =>
      have hnone : (operatorRoles status).find? name = none := by
        refine Option.eq_none_iff_forall_ne_some.2 fun r hr => ?_
        have hentry := ((operatorRoles status).find?_eq_some_iff _ _).1 hr
        rw [(master?_eq_none_iff _).1 hfound _ hentry] at hmaster
        cases hmaster
      rw [hnone, Option.map_none]
    | some e =>
      obtain ⟨he, hrole⟩ := of_master?_eq_some hfound
      have hsame : e.1 = name := honly e he hrole
      rw [← hsame, ((operatorRoles status).find?_eq_some_iff e.1 e.2).2 he, Option.map_some]

end

/-- **Role names come back from the operator.** Of every submission that a draft comes to, in every namespace: no two of
the declared roles share a key, and the manifest has the keys of these roles. Let the operator report under such keys
only. The snapshot has one role for each reported key, under the name that the role has in the submission, and with the
counts of that key; a negative count is none. Its coordinating role is that of the submission, if it is reported. -/
theorem roles_come_back {d : JobDraft} {s : Submission} (ns job : String) (h : d.build = .ok s)
    {status : OperatorStatus} (hstatus : status.Concerns (Manifest.ofSubmission s ns)) :
    let keys := d.roles.map fun e => roleKey e.1
    let snapshot := ofOperator job (some status)
    (keys.Nodup ∧ (Manifest.ofSubmission s ns).replicas.names.Perm keys ∧ s.roles.names.Perm (d.roles.map (·.1))) ∧
    (snapshot.roles.names.map roleKey).Perm status.replicas.names ∧
    (∀ name r, snapshot.roles.find? name = some r →
      name ∈ s.roles.names ∧ ∃ reported, status.replicas.find? (roleKey name) = some reported ∧ r.Tallies reported) ∧
    snapshot.master? =
      (s.roles.names.find? isMasterRole).bind fun name => (snapshot.roles.find? name).map (Prod.mk name) := by
  intro keys snapshot
  have hbuilt : d.Built s := (d.build_eq_ok_iff s).1 h
  have hnames : s.roles.names ~ d.roles.map (·.1) := by
    calc s.roles.names
      _ ~ _ := hbuilt.entries_perm.map Prod.fst
      _ = d.roles.map (·.1) := List.map_map
  have hkeys : (Manifest.ofSubmission s ns).replicas.names ~ keys := by
    calc (Manifest.ofSubmission s ns).replicas.names
      _ ~ s.roles.names.map roleKey := hbuilt.keys_perm ns
      _ ~ (d.roles.map (·.1)).map roleKey := hnames.map roleKey
      _ = keys := List.map_map
  refine ⟨⟨hkeys.nodup_iff.1 (Dict.names_nodup _), hkeys, hnames⟩, names_operatorRoles_perm hbuilt hstatus, ?_,
    master?_operatorRoles hbuilt hstatus job⟩
  intro name r hr
  obtain ⟨hname, reported, hreported, rfl⟩ := (find?_operatorRoles hbuilt hstatus name r).1 hr
  exact ⟨hname, reported, hreported, RoleStatus.tallies_ofCounts reported⟩

/-- a master and workers whose names hold digits and a dash -/
def crew : JobDraft :=
  .run { name := "train" } [.defaultImage "trainer:1.0", .role masterRole { replicas := 1 },
    .role "a100-pool" { replicas := 2 }, .role "0-spare" { replicas := 1 }]

/-- a report on two of the roles of the crew -/
def crewReport : OperatorStatus where
  replicas := .ofList [("Master", { succeeded := some 1 }), ("A100-pool", { active := some (-3), failed := some 2 })]

/-- the law at a report on some roles only, with a negative count -/
theorem crew_comes_back : ∃ s, crew.build = .ok s ∧ crewReport.Concerns (Manifest.ofSubmission s "team") ∧
    ∃ r, (ofOperator s.id (some crewReport)).roles.find? "a100-pool" = some r ∧
      r.replicas.active.toNat = 0 ∧ r.replicas.failed.toNat = 2 := by
  obtain ⟨s, hs⟩ := eq_ok_of_isSome (show crew.build.toOption.isSome = true by decide +kernel)
  have hconcerns : crew.build.toOption.all fun s => decide (crewReport.Concerns (Manifest.ofSubmission s "team")) := by
    decide +kernel
  rw [hs] at hconcerns
  have hstatus := of_decide_eq_true hconcerns
  obtain ⟨r, hr⟩ := Option.isSome_iff_exists.1
    (show ((operatorRoles crewReport).find? "a100-pool").isSome = true by decide +kernel)
  obtain ⟨_, _, hroles, _⟩ := roles_come_back "team" s.id hs hstatus
  obtain ⟨_, reported, hreported, htallies⟩ := hroles "a100-pool" r hr
  have hcounts : crewReport.replicas.find? (roleKey "a100-pool") = some { active := some (-3), failed := some 2 } := by
    decide +kernel
  obtain rfl := Option.some.inj (hcounts.symm.trans hreported)
  exact ⟨s, hs, hstatus, r, hr, htallies.active, htallies.failed⟩

end Snapshot

end TrainingJobs
