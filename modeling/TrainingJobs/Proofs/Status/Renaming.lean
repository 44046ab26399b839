/-
Snapshots whose roles go by other names. The phase of a job depends on what its roles report, in whatever order they
stand, and on what the coordinating one among them reports. The names of the roles say no more than which one that is.

- `Agree.phase_eq`: snapshots that agree in all this have one phase;
- `agree_rename`: a snapshot and its renaming do;
- `names_tell_the_master_only`: so the phase stays when roles are renamed.
-/
import TrainingJobs.Proofs.Status.Budget

namespace TrainingJobs.Snapshot

open scoped List

/-! ## What a phase depends on -/

/-- both snapshots report the same of the job, the same of their roles in some order, and the same of their masters -/
structure Agree (s s' : Snapshot) : Prop where
  accepted : s'.accepted = s.accepted
  conditions : s'.conditions = s.conditions
  roles : s'.roles.values ~ s.roles.values
  master : s'.master?.map Prod.snd = s.master?.map Prod.snd

namespace Agree

variable {s s' : Snapshot} (h : Agree s s')

include h

theorem failures_eq : s'.failures = s.failures := by
  unfold failures
  exact (h.roles.map _).sum_eq

theorem fails_iff (policy : RunPolicy) : s'.Fails policy ↔ s.Fails policy := by
  unfold Fails RetriesLeft
  simp only [h.conditions, h.failures_eq, h.roles.mem_iff]

theorem allSucceeded_eq : s'.allSucceeded = s.allSucceeded := by
  have hempty : s'.roles.values.isEmpty = s.roles.values.isEmpty := h.roles.isEmpty_eq
  rw [Dict.values, Dict.values, List.isEmpty_map, List.isEmpty_map] at hempty
  rw [allSucceeded, allSucceeded, Dict.isEmpty, Dict.isEmpty, hempty, h.roles.all_eq]

theorem hasSucceeded_eq : s'.hasSucceeded = s.hasSucceeded := by
  have hmaster (t : Snapshot) (all : Bool) :
      (t.master?.elim all fun e => e.2.hasSucceeded) = (t.master?.map Prod.snd).elim all RoleStatus.hasSucceeded := by
    cases t.master? <;> rfl
  rw [hasSucceeded, hasSucceeded, hmaster, hmaster, h.master, h.conditions, h.allSucceeded_eq]

theorem isRunning_eq : s'.isRunning = s.isRunning := by
  have hroles (t : Snapshot) : (t.roles.entries.any fun e => e.2.isRunning) = t.roles.values.any RoleStatus.isRunning := by
    rw [Dict.values, List.any_map]
    rfl
  rw [isRunning, isRunning, hroles, hroles, h.roles.any_eq, h.conditions]

theorem isSilent_eq : s'.isSilent = s.isSilent := by
  rw [isSilent, isSilent, h.accepted, h.conditions, h.roles.all_eq]

theorem phase_eq (policy : RunPolicy) : (s'.interpret policy).map (·.phase) = (s.interpret policy).map (·.phase) := by
  by_cases hfits : s.failures < UInt32.size
  · obtain ⟨r, hr, hphase⟩ := interpret_of_fits hfits policy
    obtain ⟨r', hr', hphase'⟩ := interpret_of_fits (h.failures_eq ▸ hfits) policy
    have hsame : r'.phase = r.phase := by
      rw [hphase, hphase', h.hasSucceeded_eq, h.isRunning_eq, h.isSilent_eq, decide_eq_decide.2 (h.fails_iff policy)]
    rw [hr, hr']
    exact congrArg Except.ok hsame
  · have hover : UInt32.size ≤ s.failures := not_lt.1 hfits
    cases hjob : s.conditions.failed with
    | true => rw [interpret_of_failed hjob, interpret_of_failed (h.conditions ▸ hjob)]; rfl
    | false => rw [interpret_of_overflow hjob hover,
        interpret_of_overflow (h.conditions ▸ hjob) (h.failures_eq ▸ hover)]

end Agree

/-! ## Renamings -/

/-- the snapshot with its roles under other names -/
def rename (f : String → String) (s : Snapshot) : Snapshot :=
  { s with roles := .ofList (s.roles.entries.map (Prod.map f id)) }

section

variable {s : Snapshot} {f : String → String} (hinj : ∀ a ∈ s.roles.names, ∀ b ∈ s.roles.names, f a = f b → a = b)

include hinj

theorem entries_rename_perm : (s.rename f).roles.entries ~ s.roles.entries.map (Prod.map f id) := by
  refine Dict.entries_ofList_perm ?_
  have hnames : (s.roles.entries.map (Prod.map f id)).map Prod.fst = s.roles.names.map f := by
    rw [Dict.map_names, List.map_map]
    rfl
  rw [hnames]
  exact s.roles.names_nodup.map_on hinj

theorem values_rename_perm : (s.rename f).roles.values ~ s.roles.values := by
  calc (s.rename f).roles.values
    _ ~ (s.roles.entries.map (Prod.map f id)).map Prod.snd := (entries_rename_perm hinj).map Prod.snd
    _ = s.roles.values := List.map_map

variable (hmaster : ∀ a ∈ s.roles.names, isMasterRole (f a) = isMasterRole a)
  (hone : ∀ a ∈ s.roles.names, ∀ b ∈ s.roles.names, isMasterRole a = true → isMasterRole b = true → a = b)

include hmaster hone

/-- the one master, if there is one, is found at its new place -/
theorem master?_rename : (s.rename f).master? = s.master?.map (Prod.map f id) := by
  have hname {e : String × RoleStatus} (he : e ∈ s.roles.entries) : e.1 ∈ s.roles.names := List.mem_map_of_mem he
  have hsame : ∀ e ∈ s.roles.entries, isMasterRole (f e.1) = isMasterRole e.1 := fun e he => hmaster e.1 (hname he)
  have hsub : {e ∈ s.roles.entries.map (Prod.map f id) | isMasterRole e.1 = true}.Subsingleton := by
    rintro _ ⟨hx, hmx⟩ _ ⟨hy, hmy⟩
    obtain ⟨a, ha, rfl⟩ := List.mem_map.1 hx
    obtain ⟨b, hb, rfl⟩ := List.mem_map.1 hy
    have hab : a.1 = b.1 :=
      hone a.1 (hname ha) b.1 (hname hb) ((hsame a ha).symm.trans hmx) ((hsame b hb).symm.trans hmy)
    rw [List.inj_on_of_nodup_map s.roles.names_nodup ha hb hab]
  calc (s.rename f).master?
    _ = (s.roles.entries.map (Prod.map f id)).find? fun e => isMasterRole e.1 :=
      (List.find?_eq_find?_of_perm (entries_rename_perm hinj).symm hsub).symm
    _ = (s.roles.entries.find? fun e => isMasterRole (f e.1)).map (Prod.map f id) := List.find?_map
    _ = s.master?.map (Prod.map f id) := by rw [master?, List.find?_congr hsame]

theorem agree_rename : Agree s (s.rename f) where
  accepted := rfl
  conditions := rfl
  roles := values_rename_perm hinj
  master := by
    rw [master?_rename hinj hmaster hone, Option.map_map]
    rfl

end

/-- **The names of roles tell the master only.** Let at most one of the reported roles be a master, and let its roles be
renamed so that no two get one name and a master stays a master and any other role another one. Then the snapshot and its
renaming have the same phase under every run policy, or neither has a report. -/
theorem names_tell_the_master_only (s : Snapshot) (policy : RunPolicy) (f : String → String)
    (hone : ∀ a ∈ s.roles.names, ∀ b ∈ s.roles.names, isMasterRole a = true → isMasterRole b = true → a = b)
    (hinj : ∀ a ∈ s.roles.names, ∀ b ∈ s.roles.names, f a = f b → a = b)
    (hmaster : ∀ a ∈ s.roles.names, isMasterRole (f a) = isMasterRole a) :
    ((s.rename f).interpret policy).map (·.phase) = (s.interpret policy).map (·.phase) :=
  (agree_rename hinj hmaster hone).phase_eq policy

/-- a master that has succeeded beside a worker and an evaluator, of which one has failed within the retries -/
def trio : Snapshot where
  job := "train"
  accepted := true
  roles := .ofList [("master", { conditions := { succeeded := true }, replicas := { succeeded := 1 } }),
    ("worker", { conditions := { running := true }, replicas := { active := 2 } }),
    ("evaluator", { replicas := { failed := 1 } })]

/-- the trio under names that stand in the opposite order -/
def trioName (name : String) : String :=
  if name = "master" then "MASTER" else if name = "worker" then "a-worker" else "z-" ++ name

/-- the law at a renaming that turns the order of the roles round -/
theorem trio_renamed :
    ((∀ a ∈ trio.roles.names, ∀ b ∈ trio.roles.names, isMasterRole a = true → isMasterRole b = true → a = b) ∧
      (∀ a ∈ trio.roles.names, ∀ b ∈ trio.roles.names, trioName a = trioName b → a = b) ∧
      ∀ a ∈ trio.roles.names, isMasterRole (trioName a) = isMasterRole a) ∧
    (trio.rename trioName).roles.names = ["MASTER", "a-worker", "z-evaluator"] ∧
    ((trio.rename trioName).interpret { backoffLimit := some 2 }).map (·.phase) = .ok .succeeded := by
  have hone : ∀ a ∈ trio.roles.names, ∀ b ∈ trio.roles.names,
      isMasterRole a = true → isMasterRole b = true → a = b := by decide +kernel
  have hinj : ∀ a ∈ trio.roles.names, ∀ b ∈ trio.roles.names, trioName a = trioName b → a = b := by decide +kernel
  have hmaster : ∀ a ∈ trio.roles.names, isMasterRole (trioName a) = isMasterRole a := by decide +kernel
  have hphase : (trio.interpret { backoffLimit := some 2 }).map (·.phase) = .ok .succeeded := by decide +kernel
  refine ⟨⟨hone, hinj, hmaster⟩, by decide +kernel, ?_⟩
  rw [names_tell_the_master_only trio { backoffLimit := some 2 } trioName hone hinj hmaster, hphase]

/-- of two masters the first by name counts, so that names of theirs that are exchanged tell more -/
example :
    let s : Snapshot := { job := "train", roles := .ofList [("MASTER", { conditions := { succeeded := true } }),
      ("master", { conditions := { running := true } })] }
    let exchange (name : String) : String := if name = "master" then "MASTER" else "master"
    (s.interpret {}).map (·.phase) = .ok .succeeded ∧
      ((s.rename exchange).interpret {}).map (·.phase) = .ok .running := by
  decide +kernel

end TrainingJobs.Snapshot
