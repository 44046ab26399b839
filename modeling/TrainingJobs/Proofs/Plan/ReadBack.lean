/-
Declarations, settings and submissions come back from what is written of them. A field that is at its default may be
left out, at any depth, and fields may stand in any order; entries of a dictionary, such as the settings of the
rendezvous, are no fields and all stay.

- `layout` of each type: its fields, with the defaults that the documentation gives them;
- `carried` of each type: the value that is read is the one that was written;
- `written_values_come_back`: and with it plans, manifests and content hashes.
-/
import TrainingJobs.Job.Manifest
import TrainingJobs.Plan
import TrainingJobs.Proofs.Elastic.NodeCount
import TrainingJobs.Proofs.Job.Build
import TrainingJobs.Proofs.Job.ReadBack
import TrainingJobs.Proofs.Plan.Settings

namespace TrainingJobs

/-! ## Roles and configurations -/

namespace RoleSpec

def layout : Json.Layout :=
  .record [("replicas", some (.ofNat 0), .whole), ("restart_policy", some .null, .whole),
    ("resources", some ResourceRequirements.layout.atDefaults, ResourceRequirements.layout),
    ("image", some .null, .whole), ("command", some (.list []), .whole), ("env", some (.record []), .dict .whole)]

theorem slots_separate : Json.Slot.Separate slots := ⟨by decide, by simp [slots]⟩

theorem carried (r : RoleSpec) : Json.Carried layout ofJson r.toJson r :=
  have hnone : ResourceRequirements.ofJson ResourceRequirements.layout.atDefaults = .ok {} :=
    (ResourceRequirements.carried {}).read_eq
  .record slots_separate <|
    .defaulted (Json.carried_count r.replicas) rfl rfl nofun <|
    .defaulted (.option (fun p _ => RestartPolicy.carried p) nofun) rfl rfl nofun <|
    .defaulted r.resources.carried hnone rfl nofun <|
    .defaulted (Json.carried_optionalText r.image) rfl rfl nofun <|
    .defaulted (Json.carried_texts r.command) rfl rfl nofun <|
    .defaulted (Json.carried_dictOfTexts r.env) rfl rfl nofun <|
    .nil r

end RoleSpec

theorem NodeCount.carried {c : NodeCount} (h : c.IsValid) : Json.Carried .whole ofJson c.toJson c := by
  have hcheck : c.check = .ok c := (check_eq_ok_iff _ _).2 ⟨rfl, h⟩
  refine .leaf (by rw [ofJson_toJson, hcheck]; rfl) ?_
  cases c with
  | fixed n => exact Json.tidy_ofCount n
  | range lo hi => rfl

theorem StartMethod.carried (m : StartMethod) : Json.Carried .whole ofJson m.toJson m := .leaf (by cases m <;> rfl) rfl

namespace ElasticConfig

def layout : Json.Layout :=
  .record [("nnodes", some (.ofNat 1), .whole), ("nproc_per_node", some (.ofNat 1), .whole),
    ("start_method", some (.text "spawn"), .whole), ("monitor_interval", some (.ofNat 5), .whole),
    ("max_restarts", some (.ofNat 0), .whole),
    ("rdzv_configs", some (.record [("join_timeout", .ofNat 900), ("timeout", .ofNat 900)]), .dict .whole),
    ("increase_shared_mem", some (.bool true), .whole), ("run_policy", some .null, RunPolicy.layout)]

theorem slots_separate : Json.Slot.Separate slots := ⟨by decide, by simp [slots]⟩

theorem carried {c : ElasticConfig} (h : c.nodes.IsValid) : Json.Carried layout ofJson c.toJson c :=
  .record slots_separate <|
    .defaulted (NodeCount.carried h) rfl rfl nofun <|
    .defaulted (Json.carried_count c.processesPerNode) rfl rfl nofun <|
    .defaulted c.startMethod.carried rfl rfl nofun <|
    .defaulted (Json.carried_count c.monitorInterval) rfl rfl nofun <|
    .defaulted (Json.carried_count c.maxRestarts) rfl rfl nofun <|
    .defaulted (.dict fun e _ => Json.carried_plain e.2) rfl rfl nofun <|
    .defaulted (Json.carried_bool c.sharedMemory) rfl rfl nofun <|
    .defaulted (.option (fun p _ => RunPolicy.carried p) nofun) rfl rfl nofun <|
    .nil c

end ElasticConfig

namespace MasterConfig

def layout : Json.Layout :=
  .record [("image", some .null, .whole), ("requests", some .null, Resources.layout),
    ("limits", some .null, Resources.layout), ("restart_policy", some .null, .whole)]

theorem slots_separate : Json.Slot.Separate slots := ⟨by decide, by simp [slots]⟩

theorem carried (c : MasterConfig) : Json.Carried layout ofJson c.toJson c :=
  .record slots_separate <|
    .defaulted (Json.carried_optionalText c.image) rfl rfl nofun <|
    .defaulted (.option (fun r _ => Resources.carried r) nofun) rfl rfl nofun <|
    .defaulted (.option (fun r _ => Resources.carried r) nofun) rfl rfl nofun <|
    .defaulted (.option (fun p _ => RestartPolicy.carried p) nofun) rfl rfl nofun <|
    .nil c

end MasterConfig

namespace WorkerConfig

def layout : Json.Layout :=
  .record [("image", some .null, .whole), ("requests", some .null, Resources.layout),
    ("limits", some .null, Resources.layout), ("replicas", some .null, .whole), ("restart_policy", some .null, .whole)]

theorem slots_separate : Json.Slot.Separate slots := ⟨by decide, by simp [slots]⟩

theorem carried (c : WorkerConfig) : Json.Carried layout ofJson c.toJson c :=
  .record slots_separate <|
    .defaulted (Json.carried_optionalText c.image) rfl rfl nofun <|
    .defaulted (.option (fun r _ => Resources.carried r) nofun) rfl rfl nofun <|
    .defaulted (.option (fun r _ => Resources.carried r) nofun) rfl rfl nofun <|
    .defaulted (Json.carried_optionalCount c.replicas) rfl rfl nofun <|
    .defaulted (.option (fun p _ => RestartPolicy.carried p) nofun) rfl rfl nofun <|
    .nil c

end WorkerConfig

namespace MasterWorkerConfig

def layout : Json.Layout :=
  .record [("master", some MasterConfig.layout.atDefaults, MasterConfig.layout),
    ("worker", some WorkerConfig.layout.atDefaults, WorkerConfig.layout), ("run_policy", some .null, RunPolicy.layout),
    ("num_workers", some .null, .whole), ("increase_shared_mem", some (.bool true), .whole)]

theorem slots_separate : Json.Slot.Separate slots := ⟨by decide, by simp [slots]⟩

theorem carried (c : MasterWorkerConfig) : Json.Carried layout ofJson c.toJson c :=
  have hmaster : MasterConfig.ofJson MasterConfig.layout.atDefaults = .ok {} := (MasterConfig.carried {}).read_eq
  have hworker : WorkerConfig.ofJson WorkerConfig.layout.atDefaults = .ok {} := (WorkerConfig.carried {}).read_eq
  .record slots_separate <|
    .defaulted c.master.carried hmaster rfl nofun <|
    .defaulted c.worker.carried hworker rfl nofun <|
    .defaulted (.option (fun p _ => RunPolicy.carried p) nofun) rfl rfl nofun <|
    .defaulted (Json.carried_optionalCount c.numWorkers) rfl rfl nofun <|
    .defaulted (Json.carried_bool c.sharedMemory) rfl rfl nofun <|
    .nil c

end MasterWorkerConfig

/-! ## Declarations -/

namespace TaskDeclaration

def layout : Json.Layout :=
  .record [("name", some (.text ""), .whole), ("execution", some Execution.layout.atDefaults, Execution.layout),
    ("elastic", some .null, ElasticConfig.layout), ("pytorch", some .null, MasterWorkerConfig.layout),
    ("worker", some RoleSpec.layout.atDefaults, RoleSpec.layout)]

theorem slots_separate : Json.Slot.Separate slots := ⟨by decide, by simp [slots]⟩

theorem carried {t : TaskDeclaration} (h : ∀ c ∈ t.elastic, c.nodes.IsValid) :
    Json.Carried layout ofJson t.toJson t :=
  have hexecution : Execution.ofJson Execution.layout.atDefaults = .ok {} := (Execution.carried {}).read_eq
  have hworker : RoleSpec.ofJson RoleSpec.layout.atDefaults = .ok {} := (RoleSpec.carried {}).read_eq
  .record slots_separate <|
    .defaulted (Json.carried_text t.name) rfl rfl nofun <|
    .defaulted t.execution.carried hexecution rfl nofun <|
    .defaulted (.option (fun c hc => ElasticConfig.carried (h c hc)) nofun) rfl rfl nofun <|
    .defaulted (.option (fun c _ => MasterWorkerConfig.carried c) fun _ => Json.noConfusion) rfl rfl nofun <|
    .defaulted t.worker.carried hworker rfl nofun <|
    .nil t

end TaskDeclaration

/-! ## What comes back -/

/-- **What is written comes back.** A declaration whose node count is valid, settings whose times are whole numbers of
milliseconds that fit a word, and a submission that was built are read as they were: from what is written, from the
value proper of that, and from what is left of it when fields that are at their documented defaults are left out, at
any depth, and the others put in any order. What is read of a declaration has the same plan, and what is read of a
submission the same manifests, the same content hash, and content of that hash. -/
theorem written_values_come_back :
    (∀ t : TaskDeclaration, (∀ c ∈ t.elastic, c.nodes.IsValid) →
      TaskDeclaration.ofJson t.toJson = .ok t ∧
      Json.Carried TaskDeclaration.layout TaskDeclaration.ofJson t.toJson t ∧
      ∀ w, Json.Abridged TaskDeclaration.layout t.toJson w → ∀ defaults,
        Plan.ofDeclaration defaults <$> TaskDeclaration.ofJson w = .ok (Plan.ofDeclaration defaults t)) ∧
    (∀ t : Settings, t.HasWholeTimes →
      Settings.ofJson t.toJson = .ok t ∧ Json.Carried Settings.layout Settings.ofJson t.toJson t) ∧
    ∀ (d : JobDraft) (s : Submission), d.build = .ok s →
      Submission.ofJson s.toJson = .ok s ∧ Json.Carried Submission.layout Submission.ofJson s.toJson s ∧
      ∀ w, Json.Abridged Submission.layout s.toJson w →
        (∀ ns, (Manifest.ofSubmission · ns) <$> Submission.ofJson w = .ok (Manifest.ofSubmission s ns)) ∧
        Submission.contentHash <$> Submission.ofJson w = .ok s.contentHash ∧
        (fun s => s.content.hash) <$> Submission.ofJson w = .ok s.contentHash := by
  refine ⟨fun t ht => ?_, fun t ht => ?_, fun d s hbuild => ?_⟩
  · have h := TaskDeclaration.carried ht
    refine ⟨h.read_eq, h, fun w hw defaults => ?_⟩
    rw [h.reads w hw]
    rfl
  · have h := Settings.carried ht
    exact ⟨h.read_eq, h⟩
  · have h := s.carried
    refine ⟨h.read_eq, h, fun w hw => ?_⟩
    rw [h.reads w hw]
    exact ⟨fun _ => rfl, rfl, congrArg Except.ok ((d.build_eq_ok_iff s).1 hbuild).contentHash.symm⟩

/-- a task on two to four nodes -/
def ranged : TaskDeclaration where
  name := "train"
  elastic := some { nodes := .range 2 4 }
  worker := { image := some "trainer:1.0" }

/-- settings that leave an application a second and a half -/
def hasty : Settings := { submit := { applyTimeout := ⟨1, 500000000⟩ } }

def crew : JobDraft := .run { name := "train" } [.role workerRole { replicas := 2, image := some "trainer:1.0" }]

/-- the law at values with all left out that is at its default -/
theorem short_values_come_back :
    (∀ c ∈ ranged.elastic, c.nodes.IsValid) ∧
    TaskDeclaration.ofJson (.record [("elastic", .record [("nnodes", .text "2:4")]), ("name", .text "train"),
      ("worker", .record [("image", .text "trainer:1.0")])]) = .ok ranged ∧
    hasty.HasWholeTimes ∧
    Settings.ofJson (.record [("submit", .record [("apply_timeout", .ofNat 1500)])]) = .ok hasty ∧
    ∃ s, crew.build = .ok s ∧ Submission.ofJson s.toJson.tidy = .ok s := by
  have hvalid : ∀ c ∈ ranged.elastic, c.nodes.IsValid := by
    rintro _ ⟨⟩
    exact ⟨by decide, by decide⟩
  have hnodes : (NodeCount.range 2 4).toJson = .text "2:4" := by decide +kernel
  have hwhole : hasty.HasWholeTimes := ⟨⟨by decide, by decide⟩, ⟨by decide, by decide⟩, ⟨by decide, by decide⟩⟩
  obtain ⟨s, hs⟩ := eq_ok_of_isSome (show crew.build.toOption.isSome = true by decide +kernel)
  have hbuilt := (written_values_come_back.2.2 crew s hs).2.1
  refine ⟨hvalid, ?_, hwhole, ?_, s, hs, hbuilt.reads _ hbuilt.tidy⟩
  · refine (written_values_come_back.1 ranged hvalid).2.1.reads _ ?_
    have helastic : Json.Abridged ElasticConfig.layout (.ofOption ElasticConfig.toJson ranged.elastic)
        (.record [("nnodes", .text "2:4")]) := by
      rw [← hnodes]
      exact .record (.kept (.whole _) <| .leftOut <| .leftOut <| .leftOut <| .leftOut <| .leftOut <| .leftOut <|
        .leftOut .nil) (.refl _)
    have hworker : Json.Abridged RoleSpec.layout ranged.worker.toJson
        (.record [("image", .text "trainer:1.0")]) :=
      .record (.leftOut <| .leftOut <| .leftOut <| .kept (.whole _) <| .leftOut <| .leftOut .nil) (.refl _)
    exact .record (.kept (.whole _) <| .leftOut <| .kept helastic <| .leftOut <| .kept hworker .nil) (.swap _ _ _)
  · refine (written_values_come_back.2.1 hasty hwhole).2.reads _ ?_
    exact .record (.kept (.record (.leftOut <| .kept (.whole _) .nil) (.refl _)) <| .leftOut <| .leftOut .nil) (.refl _)

end TrainingJobs
