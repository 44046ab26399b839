/-
What reports say in words. The operator gives a message with each condition, and a snapshot keeps one of them for the job:
that of the last true condition which has one. A report that no role decides repeats it, whichever condition decided the
phase.

- `message_ofOperator`: the message that is kept;
- `interpret_withMessage`: what a report makes of another message of the job;
- `message_is_own_iff`: when a report carries the message of the condition that decides it;
- `words_taken_from_bystander`: a report that carries the message of another condition;
- `noise_changes_words_only`: a condition that is not true or not known leaves the phase as it is, and the message too
  unless it is the last to give one;
- `unknown_condition_is_heard`: such a condition whose message is reported.
-/
import TrainingJobs.Proofs.Status.Budget
import TrainingJobs.Proofs.Status.Operator

namespace TrainingJobs

/-! ## What conditions tell -/

namespace OperatorCondition

variable (c : OperatorCondition)

/-- the message of a condition that is true -/
def told? : Option String := if c.isTrue then c.message else none

/-- the condition is not true, or not one of those that are known -/
def IsNoise : Prop := c.status ≠ "True" ∨ JobCondition.parse? c.kind = none

instance : Decidable c.IsNoise := inferInstanceAs (Decidable (_ ∨ _))

variable {c}

theorem told?_of_true (h : c.status = "True") : c.told? = c.message :=
  if_pos (beq_iff_eq.2 h)

theorem told?_of_ne (h : c.status ≠ "True") : c.told? = none :=
  if_neg fun htrue => h (beq_iff_eq.1 htrue)

end OperatorCondition

/-- the message of the last true condition that has one -/
def lastTold (cs : List OperatorCondition) : Option String := (cs.filterMap OperatorCondition.told?).getLast?

theorem lastTold_append (cs ds : List OperatorCondition) : lastTold (cs ++ ds) = (lastTold ds).or (lastTold cs) := by
  rw [lastTold, List.filterMap_append, List.getLast?_append]
  rfl

theorem lastTold_cons (c : OperatorCondition) (cs : List OperatorCondition) :
    lastTold (c :: cs) = (lastTold cs).or c.told? := by
  have hsingle : lastTold [c] = c.told? := by
    rw [lastTold, List.filterMap_cons, List.filterMap_nil]
    cases c.told? <;> rfl
  rw [← List.singleton_append, lastTold_append, hsingle]

theorem lastTold_between (before after : List OperatorCondition) (c : OperatorCondition) :
    lastTold (before ++ c :: after) = (lastTold after).or (c.told?.or (lastTold before)) := by
  rw [lastTold_append, lastTold_cons, Option.or_assoc]

/-! ## The message of the job -/

/-- the snapshot with another message of the job -/
def Snapshot.withMessage (s : Snapshot) (m : Option String) : Snapshot := { s with message := m }

/-- the report with another message -/
def PhaseReport.withMessage (r : PhaseReport) (m : Option String) : PhaseReport := { r with message := m }

namespace Snapshot

variable (s : Snapshot)

theorem observe_withMessage (m : Option String) (c : OperatorCondition) :
    (s.withMessage m).observe c = (s.observe c).withMessage (c.told?.or m) := by
  rw [observe, observe, OperatorCondition.told?]
  cases c.isTrue <;> rfl

/-- The message that is kept hangs on the conditions alone, and the rest of the snapshot not on it. -/
theorem foldl_observe_withMessage (cs : List OperatorCondition) (m : Option String) :
    cs.foldl observe (s.withMessage m) = (cs.foldl observe s).withMessage ((lastTold cs).or m) := by
  induction cs generalizing s m with
  | nil => rfl
  | cons c cs ih => rw [List.foldl_cons, List.foldl_cons, observe_withMessage, ih, lastTold_cons, Option.or_assoc]

variable {s} in
theorem observe_of_isNoise {c : OperatorCondition} (h : c.IsNoise) :
    s.observe c = s.withMessage (c.told?.or s.message) := by
  rw [observe, OperatorCondition.told?]
  cases htrue : c.isTrue with
  | false => rfl
  | true =>
    have hkind : JobCondition.parse? c.kind = none := h.resolve_left (not_not.2 (beq_iff_eq.1 htrue))
    rw [hkind]
    rfl

variable (job : String)

theorem message_foldl_observe (cs : List OperatorCondition) :
    (cs.foldl observe (ofAccepted job)).message = lastTold cs := by
  have hfold := (ofAccepted job).foldl_observe_withMessage cs none
  rw [Option.or_none] at hfold
  exact congrArg message hfold

theorem message_ofOperator (status : OperatorStatus) :
    (ofOperator job (some status)).message = lastTold status.conditions :=
  message_foldl_observe job status.conditions

theorem ofOperator_of_isNoise {c : OperatorCondition} (h : c.IsNoise) (before after : List OperatorCondition)
    (replicas : Dict OperatorReplicas) :
    ofOperator job (some ⟨before ++ c :: after, replicas⟩) =
      (ofOperator job (some ⟨before ++ after, replicas⟩)).withMessage (lastTold (before ++ c :: after)) := by
  have hfold : (before ++ c :: after).foldl observe (ofAccepted job) =
      ((before ++ after).foldl observe (ofAccepted job)).withMessage (lastTold (before ++ c :: after)) := by
    rw [List.foldl_append, List.foldl_cons, observe_of_isNoise h, foldl_observe_withMessage, message_foldl_observe,
      ← lastTold_between, List.foldl_append]
  rw [ofOperator, hfold]
  rfl

/-! ## Reports that repeat it -/

/-- no role has a message of its own -/
def RolesAreMute : Prop := ∀ e ∈ s.roles.entries, e.2.message = none

/-- a role decides the report: it has failed and no retries are left, or it coordinates the others and has succeeded -/
def RoleDecides (policy : RunPolicy) : Prop :=
  s.conditions.failed = false ∧ (s.Fails policy ∨ ∃ e, s.master? = some e ∧ e.2.hasSucceeded = true)

theorem rolesAreMute_ofOperator (status : OperatorStatus) : (ofOperator job (some status)).RolesAreMute := by
  intro e he
  obtain ⟨x, _, rfl⟩ := List.mem_map.1 (Dict.mem_of_mem_ofList he)
  rfl

variable {s} {policy : RunPolicy}

theorem of_not_roleDecides (h : ¬ s.RoleDecides policy) (hjob : s.conditions.failed = false) :
    ¬ s.Fails policy ∧ ∀ e, s.master? = some e → e.2.hasSucceeded = false :=
  ⟨fun hfails => h ⟨hjob, .inl hfails⟩,
    fun e he => Bool.eq_false_iff.2 fun hsucceeded => h ⟨hjob, .inr ⟨e, he, hsucceeded⟩⟩⟩

theorem failure?_withMessage (hjob : s.conditions.failed = false) (m : Option String) :
    (s.withMessage m).failure? policy = s.failure? policy := by
  have hjob' : (s.withMessage m).conditions.failed = false := hjob
  rw [failure?, failure?, hjob, hjob']
  rfl

theorem success?_of_master {e : String × RoleStatus} (he : s.master? = some e) (h : e.2.hasSucceeded = true) :
    s.success? = some ⟨.succeeded, some (e.2.message.getD (roleMessage e.1 "succeeded"))⟩ := by
  rw [success?, he]
  exact if_pos h

theorem success?_withMessage (h : ∀ e, s.master? = some e → e.2.hasSucceeded = false) (m : Option String) :
    (s.withMessage m).success? = s.success?.map (·.withMessage m) := by
  have hjob : (s.withMessage m).jobSuccess? = s.jobSuccess?.map (·.withMessage m) := by
    have hconditions : (s.withMessage m).conditions = s.conditions := rfl
    rw [jobSuccess?, jobSuccess?, hconditions]
    split_ifs <;> rfl
  have hmaster : (s.withMessage m).master? = s.master? := rfl
  rw [success?, success?, hmaster, hjob]
  cases he : s.master? with
  | none =>
    have hall : (s.withMessage m).allSucceeded = s.allSucceeded := rfl
    rw [hall]
    cases s.allSucceeded <;> rfl
  | some e => simp only [h e he, Bool.false_eq_true, if_false]

theorem running?_withMessage (hmute : s.RolesAreMute) (words : String) :
    (s.withMessage (some words)).running? = s.running?.map (·.withMessage (some words)) := by
  have hroles : (s.withMessage (some words)).roles = s.roles := rfl
  have hconditions : (s.withMessage (some words)).conditions = s.conditions := rfl
  rw [running?, running?, hroles, hconditions]
  cases he : s.roles.entries.find? fun e => e.2.isRunning with
  | none => cases s.conditions.running <;> cases s.conditions.restarting <;> rfl
  | some e =>
    have hnone : e.2.message = none := hmute e (List.mem_of_find?_eq_some he)
    simp only [hnone, Option.none_or]
    rfl

theorem waiting_withMessage (words : String) :
    (s.withMessage (some words)).waiting = s.waiting.withMessage (some words) := by
  have hsilent : (s.withMessage (some words)).isSilent = s.isSilent := rfl
  rw [waiting, waiting, hsilent]
  split_ifs <;> rfl

/-- A report that a role decides says the same whatever the message of the job. -/
theorem interpret_withMessage_of_roleDecides (h : s.RoleDecides policy) (m : Option String) :
    (s.withMessage m).interpret policy = s.interpret policy := by
  obtain ⟨hjob, hrole⟩ := h
  by_cases hfails : s.Fails policy
  · have hfailure : (s.withMessage m).failure? policy = s.failure? policy := failure?_withMessage hjob m
    rw [interpret, interpret, hfailure]
    cases hreport : s.failure? policy with
    | error => rfl
    | ok o =>
      cases o with
      | none => exact absurd hfails (failure?_eq_none_iff.1 hreport)
      | some r => rfl
  · obtain ⟨e, he, hmaster⟩ := hrole.resolve_left hfails
    have he' : (s.withMessage m).master? = some e := he
    have hfails' : ¬ (s.withMessage m).Fails policy := hfails
    rw [interpret_of_not_fails hfails, interpret_of_not_fails hfails', success?_of_master he hmaster,
      success?_of_master he' hmaster]
    rfl

/-- Every other report repeats it. -/
theorem interpret_withMessage (hmute : s.RolesAreMute) (h : ¬ s.RoleDecides policy) (words : String) :
    (s.withMessage (some words)).interpret policy = (s.interpret policy).map (·.withMessage (some words)) := by
  cases hjob : s.conditions.failed with
  | true =>
    have hjob' : (s.withMessage (some words)).conditions.failed = true := hjob
    rw [interpret_of_failed hjob, interpret_of_failed hjob']
    rfl
  | false =>
    obtain ⟨hfails, hmaster⟩ := of_not_roleDecides h hjob
    have hfails' : ¬ (s.withMessage (some words)).Fails policy := hfails
    rw [interpret_of_not_fails hfails, interpret_of_not_fails hfails', success?_withMessage hmaster,
      running?_withMessage hmute, waiting_withMessage, ← Option.map_or, Option.getD_map]
    rfl

/-- A success that no role decides comes with the message of the job. -/
theorem message_of_succeeded {r : PhaseReport} (hr : s.interpret policy = .ok r) (hphase : r.phase = .succeeded)
    (h : ¬ s.RoleDecides policy) : r.message = s.message := by
  have hrules := phase_of_interpret hr
  rw [hphase, eq_comm, firstPhase_eq, Bool.and_eq_true, Bool.not_eq_true', decide_eq_false_iff_not] at hrules
  obtain ⟨hfails, hsucceeded⟩ := hrules
  have hjob : s.conditions.failed = false := Bool.eq_false_iff.2 fun hjob => hfails (.inl hjob)
  obtain ⟨r', hr', _⟩ := Option.map_eq_some_iff.1 (s.success?_phase.trans (if_pos hsucceeded))
  rw [interpret_of_not_fails hfails, hr', Except.ok.injEq] at hr
  -- with its own message put in again the snapshot is the same, and so is its success
  have hself : s.success? = s.success?.map (·.withMessage s.message) :=
    success?_withMessage (of_not_roleDecides h hjob).2 s.message
  rw [hr', Option.map_some, Option.some.injEq] at hself
  exact hr ▸ congrArg PhaseReport.message hself

end Snapshot

/-! ## Whose message it is -/

section

variable (job : String) (policy : RunPolicy) (replicas : Dict OperatorReplicas) (before after : List OperatorCondition)
  {c : OperatorCondition}

/-- **The message is that of the last condition.** Let a condition of the job be true. If it is that of failure, the job
has failed, and the report gives the last message after the condition, else its own, else the last before it. If it is
that of success and no role decides, a report of success gives that message, too. So the message is the condition's own
just when the true conditions after it give no other. -/
theorem message_is_own_iff (htrue : c.status = "True") :
    let s := Snapshot.ofOperator job (some ⟨before ++ c :: after, replicas⟩)
    let told := (lastTold after).or (c.message.or (lastTold before))
    (c.kind = "Failed" → s.interpret policy = .ok ⟨.failed, some (told.getD "job reported failed")⟩) ∧
    (c.kind = "Succeeded" → ¬ s.RoleDecides policy →
      ∀ r, s.interpret policy = .ok r → r.phase = .succeeded → r.message = told) ∧
    ∀ m, c.message = some m → (told = some m ↔ ∀ m', lastTold after = some m' → m' = m) := by
  intro s told
  have hmessage : s.message = told := by
    rw [Snapshot.message_ofOperator, lastTold_between, OperatorCondition.told?_of_true htrue]
  refine ⟨fun hkind => ?_, fun _ hroles r hr hphase => ?_, fun m hm => ?_⟩
  · have hfailed : s.conditions.failed = true :=
      (Snapshot.has_ofOperator job _ .failed).2 (.inr ⟨c, List.mem_append_right before List.mem_cons_self, hkind, htrue⟩)
    rw [Snapshot.interpret_of_failed hfailed, hmessage]
  · exact (Snapshot.message_of_succeeded hr hphase hroles).trans hmessage
  · cases hafter : lastTold after <;> simp [told, hafter, hm]

/-- a failure whose message is the last but for that of a condition that is not true -/
theorem failure_in_own_words :
    let running : OperatorCondition := ⟨"Running", "True", none, some "2 replicas are running"⟩
    let failed : OperatorCondition := ⟨"Failed", "True", none, some "out of memory"⟩
    let succeeded : OperatorCondition := ⟨"Succeeded", "False", none, some "not all replicas are done"⟩
    failed.status = "True" ∧
      (Snapshot.ofOperator "train" (some ⟨[running] ++ failed :: [succeeded], ∅⟩)).interpret {} =
        .ok ⟨.failed, some "out of memory"⟩ := by
  intro running failed succeeded
  have htrue : failed.status = "True" := rfl
  exact ⟨htrue, (message_is_own_iff "train" {} ∅ [running] [succeeded] htrue).1 rfl⟩

/-- The job has failed with a message, and the report gives that of a condition listed after it. -/
theorem words_taken_from_bystander :
    let failed : OperatorCondition := ⟨"Failed", "True", none, some "out of memory"⟩
    let created : OperatorCondition := ⟨"Created", "True", none, some "train is created"⟩
    (Snapshot.ofOperator "train" (some ⟨[failed, created], ∅⟩)).interpret {} =
      .ok ⟨.failed, some "train is created"⟩ := by
  decide +kernel

/-! ## Conditions that should not count -/

/-- a condition either gives no message that is kept, or the one that is -/
theorem heard_cases (after : List OperatorCondition) (c : OperatorCondition) :
    (c.status ≠ "True" ∨ c.message = none ∨ (lastTold after).isSome = true) ∨
      ∃ words, c.status = "True" ∧ c.message = some words ∧ lastTold after = none := by
  by_cases htrue : c.status = "True"
  · cases hmessage : c.message with
    | none => exact .inl (.inr (.inl rfl))
    | some words =>
      cases hafter : lastTold after with
      | none => exact .inr ⟨words, htrue, rfl, rfl⟩
      | some m => exact .inl (.inr (.inr rfl))
  · exact .inl (.inl htrue)

theorem ofOperator_of_unheard (hnoise : c.IsNoise)
    (h : c.status ≠ "True" ∨ c.message = none ∨ (lastTold after).isSome = true) :
    Snapshot.ofOperator job (some ⟨before ++ c :: after, replicas⟩) =
      Snapshot.ofOperator job (some ⟨before ++ after, replicas⟩) := by
  have hsame : lastTold (before ++ c :: after) = lastTold (before ++ after) := by
    rw [lastTold_between, lastTold_append]
    rcases h with h | h | h
    · rw [OperatorCondition.told?_of_ne h, Option.none_or]
    · rw [OperatorCondition.told?, h, ite_self, Option.none_or]
    · obtain ⟨m, hm⟩ := Option.isSome_iff_exists.1 h
      rw [hm, Option.some_or, Option.some_or]
  rw [Snapshot.ofOperator_of_isNoise job hnoise, hsame, ← Snapshot.message_ofOperator job ⟨before ++ after, replicas⟩]
  rfl

theorem ofOperator_of_heard (hnoise : c.IsNoise) {words : String} (htrue : c.status = "True")
    (hmessage : c.message = some words) (hafter : lastTold after = none) :
    Snapshot.ofOperator job (some ⟨before ++ c :: after, replicas⟩) =
      (Snapshot.ofOperator job (some ⟨before ++ after, replicas⟩)).withMessage (some words) := by
  rw [Snapshot.ofOperator_of_isNoise job hnoise, lastTold_between, hafter, OperatorCondition.told?_of_true htrue, hmessage]
  rfl

/-- **What a condition that should not count does.** Put a condition anywhere among those of the operator that is not
true or not known. The phase of the report stays. The report stays as a whole if the condition is not true or has no
message, if a true condition after it has one, or if a role decides the report. In all other cases it gives the message
of the condition that was put in. -/
theorem noise_changes_words_only (hnoise : c.IsNoise) :
    let s := Snapshot.ofOperator job (some ⟨before ++ after, replicas⟩)
    let s' := Snapshot.ofOperator job (some ⟨before ++ c :: after, replicas⟩)
    (s'.interpret policy).map (·.phase) = (s.interpret policy).map (·.phase) ∧
    (c.status ≠ "True" ∨ c.message = none ∨ (lastTold after).isSome = true ∨ s.RoleDecides policy →
      s'.interpret policy = s.interpret policy) ∧
    ∀ words, c.status = "True" → c.message = some words → lastTold after = none → ¬ s.RoleDecides policy →
      s'.interpret policy = (s.interpret policy).map (·.withMessage (some words)) := by
  intro s s'
  have htold (words : String) (htrue : c.status = "True") (hmessage : c.message = some words)
      (hafter : lastTold after = none) : s' = s.withMessage (some words) :=
    ofOperator_of_heard job replicas before after hnoise htrue hmessage hafter
  have unheard (h : c.status ≠ "True" ∨ c.message = none ∨ (lastTold after).isSome = true ∨ s.RoleDecides policy) :
      s'.interpret policy = s.interpret policy := by
    rcases heard_cases after c with hunheard | ⟨words, htrue, hmessage, hafter⟩
    · exact congrArg (Snapshot.interpret · policy) (ofOperator_of_unheard job replicas before after hnoise hunheard)
    · have hroles : s.RoleDecides policy := by simpa [htrue, hmessage, hafter] using h
      rw [htold words htrue hmessage hafter, Snapshot.interpret_withMessage_of_roleDecides hroles]
  have heard (words : String) (htrue : c.status = "True") (hmessage : c.message = some words)
      (hafter : lastTold after = none) (hroles : ¬ s.RoleDecides policy) :
      s'.interpret policy = (s.interpret policy).map (·.withMessage (some words)) := by
    rw [htold words htrue hmessage hafter,
      Snapshot.interpret_withMessage (Snapshot.rolesAreMute_ofOperator job _) hroles]
  refine ⟨?_, unheard, heard⟩
  by_cases hroles : s.RoleDecides policy
  · rw [unheard (.inr (.inr (.inr hroles)))]
  · rcases heard_cases after c with hunheard | ⟨words, htrue, hmessage, hafter⟩
    · rw [unheard (by tauto)]
    · rw [heard words htrue hmessage hafter hroles]
      cases s.interpret policy <;> rfl

/-- a condition of an unknown kind whose message goes unheard, as one of a known kind gives another after it -/
theorem unknown_condition_unheard :
    let failed : OperatorCondition := ⟨"Failed", "True", none, some "out of memory"⟩
    let evicted : OperatorCondition := ⟨"PodsEvicted", "True", some "NodePressure", some "2 pods are evicted"⟩
    evicted.IsNoise ∧
      (Snapshot.ofOperator "train" (some ⟨[] ++ evicted :: [failed], ∅⟩)).interpret {} =
        (Snapshot.ofOperator "train" (some ⟨[] ++ [failed], ∅⟩)).interpret {} := by
  intro failed evicted
  have hnoise : evicted.IsNoise := by decide
  have hafter : (lastTold [failed]).isSome = true := by decide
  exact ⟨hnoise, (noise_changes_words_only "train" {} ∅ [] [failed] hnoise).2.1 (.inr (.inr (.inl hafter)))⟩

/-- The job has failed with a message, and the report gives that of a condition that is not known. -/
theorem unknown_condition_is_heard :
    let failed : OperatorCondition := ⟨"Failed", "True", none, some "out of memory"⟩
    let evicted : OperatorCondition := ⟨"PodsEvicted", "True", some "NodePressure", some "2 pods are evicted"⟩
    evicted.IsNoise ∧
      (Snapshot.ofOperator "train" (some ⟨[failed], ∅⟩)).interpret {} = .ok ⟨.failed, some "out of memory"⟩ ∧
      (Snapshot.ofOperator "train" (some ⟨[failed] ++ evicted :: [], ∅⟩)).interpret {} =
        .ok ⟨.failed, some "2 pods are evicted"⟩ := by
  decide +kernel

end

end TrainingJobs
