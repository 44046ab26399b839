/-
Settings as they are written, their times in whole milliseconds.

- `Settings.carried`: settings come back if their times do.
-/
import TrainingJobs.Proofs.Json.Abridged
import TrainingJobs.Proofs.Time
import TrainingJobs.Settings

namespace TrainingJobs

theorem Duration.carried {d : Duration} (h : d.IsWhole) : Json.Carried .whole ofJson d.toJson d := by
  have hcarried := (Json.carried_word d.word).map ofWord
  rwa [(ofWord_word_iff d).2 h] at hcarried

namespace SubmitSettings

def layout : Json.Layout :=
  .record [("namespace", some (.text "default"), .whole), ("apply_timeout", some (.ofNat 30000), .whole)]

theorem slots_separate : Json.Slot.Separate slots := ⟨by decide, by simp [slots]⟩

theorem carried {s : SubmitSettings} (h : s.applyTimeout.IsWhole) : Json.Carried layout ofJson s.toJson s :=
  .record slots_separate <|
    .defaulted (Json.carried_text s.ns) rfl rfl nofun <|
    .defaulted (Duration.carried h) rfl rfl nofun <|
    .nil s

end SubmitSettings

namespace StatusSettings

def layout : Json.Layout :=
  .record [("poll_interval", some (.ofNat 10000), .whole), ("request_timeout", some (.ofNat 10000), .whole),
    ("channel_capacity", some (.ofNat 16), .whole)]

theorem slots_separate : Json.Slot.Separate slots := ⟨by decide, by simp [slots]⟩

theorem carried {s : StatusSettings} (hinterval : s.pollInterval.IsWhole) (htimeout : s.requestTimeout.IsWhole) :
    Json.Carried layout ofJson s.toJson s :=
  .record slots_separate <|
    .defaulted (Duration.carried hinterval) rfl rfl nofun <|
    .defaulted (Duration.carried htimeout) rfl rfl nofun <|
    .defaulted (Json.carried_word s.channelCapacity) rfl rfl nofun <|
    .nil s

end StatusSettings

namespace JobDefaults

def layout : Json.Layout :=
  .record [("image", some .null, .whole), ("rdzv_backend", some (.text "c10d"), .whole),
    ("increase_shared_mem", some (.bool true), .whole)]

theorem slots_separate : Json.Slot.Separate slots := ⟨by decide, by simp [slots]⟩

theorem carried (d : JobDefaults) : Json.Carried layout ofJson d.toJson d :=
  .record slots_separate <|
    .defaulted (Json.carried_optionalText d.image) rfl rfl nofun <|
    .defaulted (Json.carried_text d.backend) rfl rfl nofun <|
    .defaulted (Json.carried_bool d.sharedMemory) rfl rfl nofun <|
    .nil d

end JobDefaults

namespace Settings

def layout : Json.Layout :=
  .record [("submit", some SubmitSettings.layout.atDefaults, SubmitSettings.layout),
    ("status", some StatusSettings.layout.atDefaults, StatusSettings.layout),
    ("job", some JobDefaults.layout.atDefaults, JobDefaults.layout)]

theorem slots_separate : Json.Slot.Separate slots := ⟨by decide, by simp [slots]⟩

/-- every time is a whole number of milliseconds that fits a word -/
structure HasWholeTimes (s : Settings) : Prop where
  applyTimeout : s.submit.applyTimeout.IsWhole
  pollInterval : s.status.pollInterval.IsWhole
  requestTimeout : s.status.requestTimeout.IsWhole

theorem carried {s : Settings} (h : s.HasWholeTimes) : Json.Carried layout ofJson s.toJson s :=
  have hwhole : ∀ n < 2 ^ 64, (Duration.ofMilliseconds n).IsWhole := fun n => Duration.isWhole_ofMilliseconds
  have hsubmit : SubmitSettings.ofJson SubmitSettings.layout.atDefaults = .ok {} :=
    (SubmitSettings.carried (s := {}) (hwhole 30000 (by decide))).read_eq
  have hstatus : StatusSettings.ofJson StatusSettings.layout.atDefaults = .ok {} :=
    (StatusSettings.carried (s := {}) (hwhole 10000 (by decide)) (hwhole 10000 (by decide))).read_eq
  have hjob : JobDefaults.ofJson JobDefaults.layout.atDefaults = .ok {} := (JobDefaults.carried {}).read_eq
  .record slots_separate <|
    .defaulted (SubmitSettings.carried h.applyTimeout) hsubmit rfl nofun <|
    .defaulted (StatusSettings.carried h.pollInterval h.requestTimeout) hstatus rfl nofun <|
    .defaulted s.job.carried hjob rfl nofun <|
    .nil s

end Settings

end TrainingJobs
