/-
What a submission does not depend on. The checks of a draft stop at the first fault in the order of the declarations, but
whether there is one does not depend on this order, and neither does what is built. Whom a job is for shows in its id and
execution alone, so that the content hash of one job is the same for everyone.

- `sameButOrder_run`: calls in another order give the same draft up to the order of its roles;
- `Valid.of_sameButOrder`, `build_of_sameButOrder`: such drafts are built alike;
- `build_reassigned`: the same draft for another execution;
- `submissions_ignore_order_and_identity`: both, for all calls on a draft.
-/
import TrainingJobs.Proofs.Job.Acceptance

namespace TrainingJobs

namespace DraftCall

def required? : DraftCall → Option String
  | .requireRole name => some name
  | _ => none

/-- a call that is about the whole job and not about one of its roles -/
def isOverall : DraftCall → Bool
  | .role .. | .requireRole _ => false
  | _ => true

theorem mem_filterMap_required {calls : List DraftCall} {name : String} :
    name ∈ calls.filterMap required? ↔ .requireRole name ∈ calls := by
  rw [List.mem_filterMap]
  constructor
  · rintro ⟨call, hcall, hname⟩
    cases call with
    | requireRole required =>
      cases hname
      exact hcall
    | _ => cases hname
  · exact fun h => ⟨_, h, rfl⟩

/-- the same calls but for the order in which roles are declared and required -/
structure Reordered (calls calls' : List DraftCall) : Prop where
  roles : (calls.filterMap role?).Perm (calls'.filterMap role?)
  required : (calls.filterMap required?).Perm (calls'.filterMap required?)
  overall : calls.filter isOverall = calls'.filter isOverall

/-- what the calls about the whole job say is the same -/
theorem Reordered.filterMap_eq {calls calls' : List DraftCall} (h : Reordered calls calls') {α : Type}
    {set? : DraftCall → Option α} (hset : ∀ call a, set? call = some a → call.isOverall = true) :
    calls.filterMap set? = calls'.filterMap set? := by
  have hoverall : ∀ calls : List DraftCall, calls.filterMap set? = (calls.filter isOverall).filterMap set? := by
    intro calls
    rw [List.filterMap_filter]
    refine List.filterMap_congr fun call _ => ?_
    cases hcall : set? call with
    | none => rw [ite_self]
    | some a => rw [if_pos (hset call a hcall)]
  rw [hoverall, h.overall, ← hoverall]

end DraftCall

namespace JobDraft

variable {d d' : JobDraft}

/-! ## Another order -/

/-- drafts that differ at most in the order of their roles -/
structure SameButOrder (d d' : JobDraft) : Prop where
  execution : d.execution = d'.execution
  roles : d.roles.Perm d'.roles
  required : ∀ name, name ∈ d.required.names ↔ name ∈ d'.required.names
  runPolicy : d.runPolicy = d'.runPolicy
  launch : d.launch = d'.launch
  sharedMemory : d.sharedMemory = d'.sharedMemory
  defaultImage : d.defaultImage = d'.defaultImage

theorem SameButOrder.symm (h : d.SameButOrder d') : d'.SameButOrder d :=
  ⟨h.execution.symm, h.roles.symm, fun name => (h.required name).symm, h.runPolicy.symm, h.launch.symm,
    h.sharedMemory.symm, h.defaultImage.symm⟩

theorem sameButOrder_run (execution : Execution) {calls calls' : List DraftCall} (h : DraftCall.Reordered calls calls') :
    (run execution calls).SameButOrder (run execution calls') := by
  have hd := run_collects execution calls
  have hd' := run_collects execution calls'
  have hall : calls.filterMap DraftCall.image? = calls'.filterMap DraftCall.image? ∧
      calls.filterMap DraftCall.launch? = calls'.filterMap DraftCall.launch? ∧
      calls.filterMap DraftCall.policy? = calls'.filterMap DraftCall.policy? ∧
      calls.filterMap DraftCall.sharing? = calls'.filterMap DraftCall.sharing? := by
    refine ⟨h.filterMap_eq ?_, h.filterMap_eq ?_, h.filterMap_eq ?_, h.filterMap_eq ?_⟩ <;>
      rintro ⟨⟩ a hset <;> first | rfl | cases hset
  obtain ⟨himage, hlaunch, hpolicy, hsharing⟩ := hall
  refine ⟨hd.execution.trans hd'.execution.symm, ?_, fun name => ?_, ?_, ?_, ?_, ?_⟩
  · rw [hd.roles, hd'.roles]
    exact h.roles
  · rw [hd.required, hd'.required, ← DraftCall.mem_filterMap_required, h.required.mem_iff,
      DraftCall.mem_filterMap_required]
  · rw [hd.runPolicy, hd'.runPolicy, hpolicy]
  · rw [hd.launch, hd'.launch, hlaunch]
  · rw [hd.sharedMemory, hd'.sharedMemory, hsharing]
  · rw [hd.defaultImage, hd'.defaultImage, himage]

theorem Valid.of_sameButOrder (hvalid : d.Valid) (h : d.SameButOrder d') : d'.Valid := by
  have hmem : ∀ e, e ∈ d'.roles ↔ e ∈ d.roles := fun e => h.roles.symm.mem_iff
  refine ⟨fun hnone => ?_, ?_, ?_, ?_, ?_, ?_, ?_⟩
  · exact hvalid.declared (List.perm_nil.1 (hnone ▸ h.roles))
  · exact fun e he => hvalid.labels e ((hmem e).1 he)
  · exact (h.roles.map _).nodup_iff.1 hvalid.distinct
  · exact fun e he => hvalid.masters e ((hmem e).1 he)
  · rw [← h.defaultImage]
    exact fun e he => hvalid.images e ((hmem e).1 he)
  · intro name hname
    obtain ⟨e, he, hrole⟩ := hvalid.required name ((h.required name).2 hname)
    exact ⟨e, (hmem e).2 he, hrole⟩
  · rw [← h.execution]
    exact hvalid.usable

/-- what is built of a draft does not depend on the order of its roles -/
theorem Built.eq_of_sameButOrder {s s' : Submission} (hs : d.Built s) (hs' : d'.Built s') (h : d.SameButOrder d') :
    s = s' := by
  have hresolved : d.resolved = d'.resolved := by
    funext spec
    rw [resolved, resolved, h.defaultImage]
  have hroles : s.roles = s'.roles := by
    obtain ⟨_, hnodup, hof⟩ := settledRoles_eq_ok hs'.roles
    rw [(settledRoles_eq_ok hs.roles).2.2, hof, hresolved]
    refine Dict.ofList_eq_of_perm (h.roles.map _) ?_
    rwa [List.map_map]
  have hcontent : s.content = s'.content := by
    rw [hs.content, hs'.content, hroles, JobDraft.content, JobDraft.content, h.runPolicy, h.launch, h.sharedMemory]
  have hid : s.id = s'.id := by
    have hname := hs.id
    rw [h.execution, hs'.id] at hname
    exact (Except.ok.inj hname).symm
  have hexecution : s.execution = s'.execution := by rw [hs.execution, hs'.execution, h.execution]
  have hhash : s.contentHash = s'.contentHash := by rw [hs.contentHash, hs'.contentHash, hcontent]
  cases s
  cases s'
  exact (Submission.mk.injEq ..).mpr ⟨hid, hexecution, hcontent, hhash⟩

theorem build_of_sameButOrder (h : d.SameButOrder d') :
    (∃ s, d.build = .ok s ∧ d'.build = .ok s) ∨
      ∃ cause cause', d.build = .error cause ∧ d'.build = .error cause' := by
  cases hbuild : d.build with
  | ok s =>
    have hs := (d.build_eq_ok_iff s).1 hbuild
    obtain ⟨s', hbuild'⟩ := (d'.build_isOk_iff).2 (hs.valid.of_sameButOrder h)
    rw [← hs.eq_of_sameButOrder ((d'.build_eq_ok_iff s').1 hbuild') h] at hbuild'
    exact .inl ⟨s, rfl, hbuild'⟩
  | error cause =>
    cases hbuild' : d'.build with
    | ok s' =>
      have hvalid := ((d'.build_eq_ok_iff s').1 hbuild').valid.of_sameButOrder h.symm
      exact absurd hvalid (faulty_of_build_eq_error hbuild).not_valid
    | error cause' => exact .inr ⟨cause, cause', rfl, rfl⟩

/-! ## Another execution -/

/-- the same draft for another execution -/
def reassigned (d : JobDraft) (execution : Execution) : JobDraft := { d with execution }

theorem foldl_apply_reassigned (d : JobDraft) (execution : Execution) (calls : List DraftCall) :
    calls.foldl apply (d.reassigned execution) = (calls.foldl apply d).reassigned execution := by
  induction calls generalizing d with
  | nil => rfl
  | cons call rest ih =>
    have hcall : (d.reassigned execution).apply call = (d.apply call).reassigned execution := by cases call <;> rfl
    rw [List.foldl_cons, List.foldl_cons, hcall, ih]

/-- the roles of a draft that passes all checks before its execution is looked at -/
def checkedRoles (d : JobDraft) : Except Misconfiguration (Dict Role) := do
  if d.roles.isEmpty then throw .noRoles
  let roles ← d.settledRoles
  d.required.names.forM (checkRequired roles)
  pure roles

/-- the name of the job is looked for last -/
theorem build_eq (d : JobDraft) : d.build = d.checkedRoles >>= fun roles => d.execution.jobName.map fun id =>
    { id, execution := d.execution, content := d.content roles, contentHash := (d.content roles).hash } := by
  unfold build checkedRoles
  by_cases hdeclared : d.roles.isEmpty = true
  · rw [if_pos hdeclared, if_pos hdeclared]
    rfl
  · rw [if_neg hdeclared, if_neg hdeclared]
    cases d.settledRoles with
    | error cause => rfl
    | ok roles =>
      change (d.required.names.forM (checkRequired roles) >>= _) =
        (d.required.names.forM (checkRequired roles) >>= _) >>= _
      cases d.required.names.forM (checkRequired roles) with
      | error cause => rfl
      | ok _ => cases d.execution.jobName <;> rfl

/-- with another execution that has a name, a draft meets the same fault or is built with that name -/
theorem build_reassigned {execution : Execution} {id : String} (hd : d.execution.Usable)
    (hid : execution.jobName = .ok id) :
    (d.reassigned execution).build = d.build.map fun s => { s with id, execution } := by
  have hroles : (d.reassigned execution).checkedRoles = d.checkedRoles := rfl
  have hexecution : (d.reassigned execution).execution.jobName = .ok id := hid
  rw [build_eq, build_eq, hroles, hexecution, Execution.jobName_of_usable hd]
  cases d.checkedRoles <;> rfl

/-- **A submission depends neither on the order of declarations nor, but for its id, on whom it is for.** Calls on a
draft that differ in the order of roles and of required names either all come to one submission or are all refused, for
whichever fault is met first. The same calls for two executions with usable names meet the same fault, or come to
submissions that differ in id and execution alone; the content hash is one. -/
theorem submissions_ignore_order_and_identity :
    (∀ execution calls calls', DraftCall.Reordered calls calls' →
      (∃ s, (run execution calls).build = .ok s ∧ (run execution calls').build = .ok s) ∨
      ∃ cause cause', (run execution calls).build.mapError Error.configuration = .error (.configuration cause) ∧
        (run execution calls').build.mapError Error.configuration = .error (.configuration cause')) ∧
    ∀ execution execution' calls, execution.Usable → execution'.Usable →
      (∃ s id, (run execution calls).build = .ok s ∧ execution'.jobName = .ok id ∧
        (run execution' calls).build = .ok { s with id, execution := execution' }) ∨
      ∃ cause, (run execution calls).build.mapError Error.configuration = .error (.configuration cause) ∧
        (run execution' calls).build.mapError Error.configuration = .error (.configuration cause) := by
  constructor
  · intro execution calls calls' h
    rcases build_of_sameButOrder (sameButOrder_run execution h) with hbuilt | ⟨cause, cause', hcause, hcause'⟩
    · exact .inl hbuilt
    · exact .inr ⟨cause, cause', by rw [hcause]; rfl, by rw [hcause']; rfl⟩
  · intro execution execution' calls h h'
    have hid := Execution.jobName_of_usable h'
    have hrun : run execution' calls = (run execution calls).reassigned execution' :=
      foldl_apply_reassigned { execution } execution' calls
    have husable : (run execution calls).execution.Usable := by rwa [(run_collects execution calls).execution]
    have hsame := build_reassigned husable hid
    rw [← hrun] at hsame
    cases hbuild : (run execution calls).build with
    | ok s =>
      rw [hbuild] at hsame
      exact .inl ⟨s, _, rfl, hid, hsame⟩
    | error cause =>
      rw [hbuild] at hsame
      exact .inr ⟨cause, rfl, by rw [hsame]; rfl⟩

/-- calls that declare and require the same roles as `changes` the other way round -/
def changesTurned : List DraftCall :=
  [.role masterRole { replicas := 1, image := some "lead:1.0", restartPolicy := some .onFailure },
    .defaultImage "trainer:0.9", .runPolicy { backoffLimit := some 1 }, .sharedMemory true,
    .defaultImage "trainer:1.0", .requireRole workerRole, .runPolicy { backoffLimit := some 3 },
    .role workerRole { replicas := 2, command := ["train"] }]

/-- the law at these calls, for two executions: one content hash under two names -/
theorem changes_turned_are_built_alike : ∃ s id, (run { name := "Train 7" } changes).build = .ok s ∧
    (run { name := "Train 7" } changesTurned).build = .ok s ∧
    (run { name := "Train 7", project := "ml" } changes).build =
      .ok { s with id, execution := { name := "Train 7", project := "ml" } } ∧ s.id ≠ id := by
  obtain ⟨s, hs⟩ := eq_ok_of_isSome
    (show (run { name := "Train 7" } changes).build.toOption.isSome = true by decide +kernel)
  obtain ⟨horder, hidentity⟩ := submissions_ignore_order_and_identity
  have hturned : (run { name := "Train 7" } changesTurned).build = .ok s := by
    rcases horder { name := "Train 7" } changes changesTurned ⟨by decide, by decide, by decide⟩ with
      ⟨s', hs', hturned⟩ | ⟨cause, _, hcause, _⟩
    · rw [hs] at hs'
      rwa [Except.ok.inj hs']
    · rw [hs] at hcause
      cases hcause
  rcases hidentity { name := "Train 7" } { name := "Train 7", project := "ml" } changes (by decide) (by decide) with
    ⟨s', id, hs', hid, hother⟩ | ⟨cause, hcause, _⟩
  · rw [hs] at hs'
    cases hs'
    refine ⟨s, id, hs, hturned, hother, fun hsame => ?_⟩
    have hname : (run { name := "Train 7" } changes).execution.jobName = .ok s.id := ((build_eq_ok_iff _ s).1 hs).id
    rw [hsame, ← hid] at hname
    exact absurd hname (by decide +kernel)
  · rw [hs] at hcause
    cases hcause

/-- of several faults the one met first is told, and that one does depend on the order -/
example : (run { name := "train" } [.role "Worker" {}, .role masterRole { replicas := 2 }]).build =
      .error (.malformedLabel "role name" "Worker") ∧
    (run { name := "train" } [.role masterRole { replicas := 2 }, .role "Worker" {}]).build = .error (.manyMasters 2) := by
  decide +kernel

end JobDraft

end TrainingJobs
