/-
Polls: one look at a job, bounded in time. A poll never fails; a status that cannot be read is an unknown phase with the
cause as message, so only a snapshot can end a job.

- `pollReport_terminal`: a terminal phase comes from a snapshot.
-/
import TrainingJobs.Error
import TrainingJobs.Status.Phase

namespace TrainingJobs

/-- what a read of the status of a job says -/
def pollReport (job : String) (policy : RunPolicy) : Except Error (Option Snapshot) → Except CountOverflow PhaseReport
  | .ok (some s) => s.interpret policy
  | .ok none => .ok ⟨.unknown, some s!"job {job} not found"⟩
  | .error e => .ok ⟨.unknown, some e.message⟩

/-- what a read that takes too long says -/
def timeoutReport (milliseconds : UInt64) : PhaseReport :=
  ⟨.unknown, some ("status request timed out after " ++ Text.decimal milliseconds.toNat ++ "ms")⟩

theorem pollReport_terminal {job : String} {policy : RunPolicy} {read : Except Error (Option Snapshot)}
    {r : PhaseReport} (h : pollReport job policy read = .ok r) (ht : r.phase.isTerminal = true) :
    ∃ s, read = .ok (some s) ∧ s.interpret policy = .ok r := by
  match read, h with
  | .ok (some s), h => exact ⟨s, rfl, h⟩
  | .ok none, h => cases h; cases ht
  | .error _, h => cases h; cases ht

end TrainingJobs
