/-
Drafts by the calls that made them: roles pile up in the order of their declaration, required names count once, and of
any other choice the last word stands.

- `foldl_apply_last`: what is set more than once is as it was set last;
- `run_collects`: what a draft holds after any calls.
-/
import TrainingJobs.Job.Draft

namespace TrainingJobs

namespace DraftCall

def role? : DraftCall → Option (String × RoleSpec)
  | .role name spec => some (name, spec)
  | _ => none

def image? : DraftCall → Option String
  | .defaultImage image => some image
  | _ => none

def policy? : DraftCall → Option RunPolicy
  | .runPolicy policy => some policy
  | _ => none

def launch? : DraftCall → Option ElasticLaunch
  | .elastic launch => some launch
  | _ => none

def sharing? : DraftCall → Option Bool
  | .sharedMemory enabled => some enabled
  | _ => none

end DraftCall

namespace JobDraft

/-- what a draft holds of the calls on it: every role and every required name, and the last word on anything else -/
structure Collects (d : JobDraft) (execution : Execution) (calls : List DraftCall) : Prop where
  execution : d.execution = execution
  roles : d.roles = calls.filterMap DraftCall.role?
  required : ∀ name, name ∈ d.required.names ↔ .requireRole name ∈ calls
  defaultImage : d.defaultImage = (calls.filterMap DraftCall.image?).getLast?
  launch : d.launch = (calls.filterMap DraftCall.launch?).getLast?
  runPolicy : d.runPolicy = (calls.filterMap DraftCall.policy?).getLast?.getD {}
  sharedMemory : d.sharedMemory = (calls.filterMap DraftCall.sharing?).getLast?.getD false

theorem foldl_apply_execution (d : JobDraft) (calls : List DraftCall) :
    (calls.foldl apply d).execution = d.execution := by
  induction calls generalizing d with
  | nil => rfl
  | cons call rest ih =>
    rw [List.foldl_cons, ih]
    cases call <;> rfl

theorem foldl_apply_roles (d : JobDraft) (calls : List DraftCall) :
    (calls.foldl apply d).roles = d.roles ++ calls.filterMap DraftCall.role? := by
  induction calls generalizing d with
  | nil => simp
  | cons call rest ih =>
    rw [List.foldl_cons, ih, List.filterMap_cons]
    cases call <;> simp [apply, DraftCall.role?]

theorem mem_foldl_apply_required (d : JobDraft) (calls : List DraftCall) (name : String) :
    name ∈ (calls.foldl apply d).required.names ↔ name ∈ d.required.names ∨ .requireRole name ∈ calls := by
  induction calls generalizing d with
  | nil => simp
  | cons call rest ih =>
    rw [List.foldl_cons, ih, List.mem_cons]
    cases call with
    | requireRole required => simp [apply, Dict.mem_names_insert, or_left_comm, or_assoc]
    | _ => simp [apply]

/-- what each call either sets or leaves alone is as the last call has it that sets it -/
theorem foldl_apply_last {α : Type} (part : JobDraft → Option α) (set? : DraftCall → Option α)
    (h : ∀ d call, part (d.apply call) = (set? call).or (part d)) (d : JobDraft) (calls : List DraftCall) :
    part (calls.foldl apply d) = (calls.filterMap set?).getLast?.or (part d) := by
  induction calls generalizing d with
  | nil => rfl
  | cons call rest ih =>
    rw [List.foldl_cons, ih, h, List.filterMap_cons]
    cases set? call with
    | none => rfl
    | some a => rw [List.getLast?_cons, Option.some_or, Option.some_or, Option.or_some]

theorem foldl_apply_last_getD {α : Type} (part : JobDraft → α) (set? : DraftCall → Option α)
    (h : ∀ d call, part (d.apply call) = (set? call).getD (part d)) (d : JobDraft) (calls : List DraftCall) :
    part (calls.foldl apply d) = (calls.filterMap set?).getLast?.getD (part d) := by
  have hset : ∀ d call, some (part (d.apply call)) = (set? call).or (some (part d)) := by
    intro d call
    rw [h, Option.or_some]
  have hlast := foldl_apply_last (fun d => some (part d)) set? hset d calls
  rw [Option.or_some] at hlast
  exact Option.some.inj hlast

theorem run_collects (execution : Execution) (calls : List DraftCall) :
    (run execution calls).Collects execution calls := by
  refine ⟨foldl_apply_execution _ calls, foldl_apply_roles _ calls, fun name => ?_, ?_, ?_, ?_, ?_⟩
  · rw [run, mem_foldl_apply_required]
    exact or_iff_right List.not_mem_nil
  · rw [run, foldl_apply_last defaultImage DraftCall.image? (by rintro d ⟨⟩ <;> rfl), Option.or_none]
  · rw [run, foldl_apply_last launch DraftCall.launch? (by rintro d ⟨⟩ <;> rfl), Option.or_none]
  · exact foldl_apply_last_getD runPolicy DraftCall.policy? (by rintro d ⟨⟩ <;> rfl) _ calls
  · exact foldl_apply_last_getD sharedMemory DraftCall.sharing? (by rintro d ⟨⟩ <;> rfl) _ calls

end JobDraft

end TrainingJobs
