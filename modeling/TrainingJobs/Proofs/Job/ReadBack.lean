/-
What is written of roles, policies and submissions reads back as it was, whatever fields are left out that are at their
defaults, so that different ones are written differently. None of it is void or holds a number that is not an integer.

- `layout` of each type: its fields, with the defaults of those that may be left out;
- `carried` of each type: the value that is read is the one that was written;
- `Content.toJson_injective`: different contents are different values;
- `Content.isExact_toJson`: and of the kind that texts tell apart.
-/
import Mathlib.Tactic
import TrainingJobs.Job.Submission
import TrainingJobs.Proofs.Json.Abridged
import TrainingJobs.Proofs.Json.Text

namespace TrainingJobs

/-! ## Layouts -/

theorem RestartPolicy.carried (p : RestartPolicy) : Json.Carried .whole ofJson p.toJson p :=
  .leaf (by cases p <;> rfl) rfl

theorem CleanPodPolicy.carried (p : CleanPodPolicy) : Json.Carried .whole ofJson p.toJson p :=
  .leaf (by cases p <;> rfl) rfl

namespace Resources

def layout : Json.Layout :=
  .record [("cpu", some .null, .whole), ("memory", some .null, .whole), ("gpu", some .null, .whole),
    ("ephemeral_storage", some .null, .whole)]

theorem slots_separate : Json.Slot.Separate slots := ⟨by decide, by simp [slots]⟩

theorem carried (r : Resources) : Json.Carried layout ofJson r.toJson r :=
  .record slots_separate <|
    .defaulted (Json.carried_optionalText r.cpu) rfl rfl nofun <|
    .defaulted (Json.carried_optionalText r.memory) rfl rfl nofun <|
    .defaulted (Json.carried_optionalText r.gpu) rfl rfl nofun <|
    .defaulted (Json.carried_optionalText r.ephemeralStorage) rfl rfl nofun <|
    .nil r

end Resources

namespace ResourceRequirements

def layout : Json.Layout :=
  .record [("requests", some Resources.layout.atDefaults, Resources.layout),
    ("limits", some Resources.layout.atDefaults, Resources.layout)]

theorem slots_separate : Json.Slot.Separate slots := ⟨by decide, by simp [slots]⟩

theorem carried (r : ResourceRequirements) : Json.Carried layout ofJson r.toJson r :=
  have hnone : Resources.ofJson Resources.layout.atDefaults = .ok {} := (Resources.carried {}).read_eq
  .record slots_separate <|
    .defaulted (Resources.carried r.requests) hnone rfl nofun <|
    .defaulted (Resources.carried r.limits) hnone rfl nofun <|
    .nil r

end ResourceRequirements

namespace Role

def layout : Json.Layout :=
  .record [("replicas", none, .whole), ("restart_policy", none, .whole),
    ("resources", none, ResourceRequirements.layout), ("image", none, .whole), ("command", none, .whole),
    ("env", none, .dict .whole)]

theorem slots_separate : Json.Slot.Separate slots := ⟨by decide, by simp [slots]⟩

theorem carried (r : Role) : Json.Carried layout ofJson r.toJson r :=
  .record slots_separate <|
    .required (Json.carried_count r.replicas) <|
    .required r.restartPolicy.carried <|
    .required r.resources.carried <|
    .required (Json.carried_text r.image) <|
    .required (Json.carried_texts r.command) <|
    .required (Json.carried_dictOfTexts r.env) <|
    .nil r

end Role

namespace RunPolicy

def layout : Json.Layout :=
  .record [("clean_pod_policy", some .null, .whole), ("ttl_seconds_after_finished", some .null, .whole),
    ("active_deadline_seconds", some .null, .whole), ("backoff_limit", some .null, .whole)]

theorem slots_separate : Json.Slot.Separate slots := ⟨by decide, by simp [slots]⟩

theorem carried (p : RunPolicy) : Json.Carried layout ofJson p.toJson p :=
  .record slots_separate <|
    .defaulted (.option (fun c _ => CleanPodPolicy.carried c) nofun) rfl rfl nofun <|
    .defaulted (Json.carried_optionalCount p.ttlSecondsAfterFinished) rfl rfl nofun <|
    .defaulted (Json.carried_optionalWord p.activeDeadlineSeconds) rfl rfl nofun <|
    .defaulted (Json.carried_optionalCount p.backoffLimit) rfl rfl nofun <|
    .nil p

end RunPolicy

namespace ElasticPolicy

def layout : Json.Layout :=
  .record [("rdzvBackend", none, .whole), ("minReplicas", none, .whole), ("maxReplicas", none, .whole),
    ("nProcPerNode", none, .whole), ("maxRestarts", none, .whole)]

theorem slots_separate : Json.Slot.Separate slots := ⟨by decide, by simp [slots]⟩

theorem carried (p : ElasticPolicy) : Json.Carried layout ofJson p.toJson p :=
  .record slots_separate <|
    .required (Json.carried_text p.backend) <|
    .required (Json.carried_int32 p.minReplicas) <|
    .required (Json.carried_int32 p.maxReplicas) <|
    .required (Json.carried_int32 p.processesPerNode) <|
    .required (Json.carried_int32 p.maxRestarts) <|
    .nil p

end ElasticPolicy

namespace Execution

def layout : Json.Layout :=
  .record [("project", some (.text ""), .whole), ("domain", some (.text ""), .whole), ("name", some (.text ""), .whole),
    ("node_id", some (.text ""), .whole), ("retry_attempt", some (.ofNat 0), .whole)]

theorem slots_separate : Json.Slot.Separate slots := ⟨by decide, by simp [slots]⟩

theorem carried (e : Execution) : Json.Carried layout ofJson e.toJson e :=
  .record slots_separate <|
    .defaulted (Json.carried_text e.project) rfl rfl nofun <|
    .defaulted (Json.carried_text e.domain) rfl rfl nofun <|
    .defaulted (Json.carried_text e.name) rfl rfl nofun <|
    .defaulted (Json.carried_text e.node) rfl rfl nofun <|
    .defaulted (Json.carried_count e.attempt) rfl rfl nofun <|
    .nil e

end Execution

namespace Submission

def layout : Json.Layout :=
  .record [("id", none, .whole), ("execution", none, Execution.layout), ("roles", none, .dict Role.layout),
    ("run_policy", none, RunPolicy.layout), ("elastic_policy", some .null, ElasticPolicy.layout),
    ("nproc_per_node", some .null, .whole), ("shared_memory", none, .whole), ("content_hash", none, .whole)]

theorem slots_separate : Json.Slot.Separate slots := ⟨by decide, by simp [slots]⟩

theorem carried (s : Submission) : Json.Carried layout ofJson s.toJson s :=
  .record slots_separate <|
    .required (Json.carried_text s.id) <|
    .required s.execution.carried <|
    .required (.dict fun e _ => e.2.carried) <|
    .required s.content.runPolicy.carried <|
    .defaulted (.option (fun p _ => ElasticPolicy.carried p) nofun) rfl rfl nofun <|
    .defaulted (Json.carried_optionalCount s.content.processesPerNode) rfl rfl nofun <|
    .required (Json.carried_bool s.content.sharedMemory) <|
    .required (Json.carried_text s.contentHash) <|
    .nil s

end Submission

/-! ## Different values are written differently -/

namespace Json

/-- what reads back is told apart -/
theorem injective_of_readBack {α : Type} {read : Json → Reading α} {write : α → Json}
    (h : ∀ a, read (write a) = .ok a) : Function.Injective write := by
  intro a b hab
  have hread : read (write a) = read (write b) := congrArg read hab
  rw [h, h] at hread
  exact Except.ok.inj hread

end Json

theorem RestartPolicy.toJson_injective : Function.Injective toJson :=
  Json.injective_of_readBack fun p => (carried p).read_eq

theorem CleanPodPolicy.toJson_injective : Function.Injective toJson :=
  Json.injective_of_readBack fun p => (carried p).read_eq

theorem RunPolicy.toJson_injective : Function.Injective toJson :=
  Json.injective_of_readBack fun p => (carried p).read_eq

theorem ElasticPolicy.toJson_injective : Function.Injective toJson :=
  Json.injective_of_readBack fun p => (carried p).read_eq

theorem Content.toJson_injective : Function.Injective toJson := by
  intro c c' h
  simp only [toJson, Json.record.injEq, List.cons.injEq, Prod.mk.injEq, true_and, and_true, Json.bool.injEq] at h
  obtain ⟨hroles, hrunPolicy, helastic, hprocesses, hshared⟩ := h
  have hroles := Json.ofDict_injective (Json.injective_of_readBack fun r => r.carried.read_eq) hroles
  have hrunPolicy := RunPolicy.toJson_injective hrunPolicy
  have helastic := Json.ofOption_injective ElasticPolicy.toJson_injective nofun helastic
  have hprocesses := Json.injective_of_readBack (fun x => (Json.carried_optionalCount x).read_eq) hprocesses
  cases c
  cases c'
  simp_all

/-! ## Texts of values -/

namespace Json

variable {α : Type} {write : α → Json}

theorem isExact_ofDict (h : ∀ a, isExact (write a) = true) (d : Dict α) : isExact (ofDict write d) = true := by
  rw [ofDict, isExact_record, List.all_map, List.all_eq_true]
  exact fun e _ => h e.2

theorem isExact_ofOption (h : ∀ a, isExact (write a) = true) (x : Option α) : isExact (ofOption write x) = true := by
  cases x with
  | none => rfl
  | some a => exact h a

theorem isExact_ofTexts (xs : List String) : isExact (ofTexts xs) = true := by
  rw [ofTexts, isExact_list, List.all_map, List.all_eq_true]
  exact fun s _ => isExact_text s

theorem isExact_ofCount (n : UInt32) : isExact (ofCount n) = true := isExact_int _

theorem isExact_ofWord (n : UInt64) : isExact (ofWord n) = true := isExact_int _

end Json

theorem Resources.isExact_toJson (r : Resources) : r.toJson.isExact = true := by
  simp [toJson, Json.isExact_ofOption Json.isExact_text]

theorem ResourceRequirements.isExact_toJson (r : ResourceRequirements) : r.toJson.isExact = true := by
  simp [toJson, Resources.isExact_toJson]

theorem Role.isExact_toJson (r : Role) : r.toJson.isExact = true := by
  simp [toJson, Json.isExact_ofCount, RestartPolicy.toJson, ResourceRequirements.isExact_toJson, Json.isExact_ofTexts,
    Json.isExact_ofDict Json.isExact_text]

theorem RunPolicy.isExact_toJson (p : RunPolicy) : p.toJson.isExact = true := by
  have hclean : ∀ p : CleanPodPolicy, p.toJson.isExact = true := fun _ => Json.isExact_text _
  simp [toJson, Json.isExact_ofOption hclean, Json.isExact_ofOption Json.isExact_ofCount,
    Json.isExact_ofOption Json.isExact_ofWord]

theorem ElasticPolicy.isExact_toJson (p : ElasticPolicy) : p.toJson.isExact = true := rfl

theorem Content.isExact_toJson (c : Content) : c.toJson.isExact = true := by
  simp [toJson, Json.isExact_ofDict Role.isExact_toJson, RunPolicy.isExact_toJson,
    Json.isExact_ofOption ElasticPolicy.isExact_toJson, Json.isExact_ofOption Json.isExact_ofCount]

end TrainingJobs
