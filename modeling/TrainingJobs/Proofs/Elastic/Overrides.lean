/-
What a replica takes from its environment, whoever has written it. Every variable of a launch that is set has to be well
formed, or nothing is taken and the launch is refused for such a variable; what is set then stands in place of the
launch's own values, and nothing else changes. A launch that can be run can be run afterwards, and taking the same
environment again changes nothing.

- `withEnvironment_eq`: what is taken does not depend on the launch that takes it;
- `readOverrides_eq_ok_iff`, `wellFormed_iff`: what is taken, and when there is something to take;
- `fault_of_readOverrides`: what an environment is refused for;
- `environment_is_taken_as_a_whole`: all of it, for every launch and every environment.
-/
import TrainingJobs.Proofs.Elastic.NodeCount

namespace TrainingJobs.ElasticLaunch

/-! ## What is taken of an environment -/

/-- what is taken in place of the values of a launch, as far as anything is -/
structure Overrides where
  nodes : Option NodeCount := none
  processes : Option UInt32 := none
  restarts : Option UInt32 := none
  monitor : Option UInt32 := none
  endpoint : Option String := none

/-- the launch with these values in place; where there is none, its own stays -/
def override (l : ElasticLaunch) (r : Overrides) : ElasticLaunch :=
  { l with
    minNodes := (r.nodes.map NodeCount.min).getD l.minNodes
    maxNodes := (r.nodes.map NodeCount.max).getD l.maxNodes
    processesPerNode := r.processes.getD l.processesPerNode
    maxRestarts := r.restarts.getD l.maxRestarts
    monitorInterval := r.monitor.getD l.monitorInterval
    endpoint := r.endpoint.getD l.endpoint }

theorem override_idem (l : ElasticLaunch) (r : Overrides) : (l.override r).override r = l.override r := by
  obtain ⟨nodes, processes, restarts, monitor, endpoint⟩ := r
  cases nodes <;> cases processes <;> cases restarts <;> cases monitor <;> cases endpoint <;> rfl

def readProcesses (value : String) : Except Misconfiguration UInt32 := do
  let n ← readVariable processesVariable value
  if n = 0 then throw (.zeroVariable processesVariable) else pure n

/-- every variable that is set, read -/
def readOverrides (env : Environment) : Except Misconfiguration Overrides := do
  let nodes ← (env nodesVariable).mapM NodeCount.parse
  let processes ← (env processesVariable).mapM readProcesses
  let restarts ← (env restartsVariable).mapM (readVariable restartsVariable)
  let monitor ← (env monitorVariable).mapM (readVariable monitorVariable)
  pure { nodes, processes, restarts, monitor, endpoint := env endpointVariable }

theorem withNodes_eq (l : ElasticLaunch) (v : Option String) :
    l.withNodes v = (fun c => l.override { nodes := c }) <$> v.mapM NodeCount.parse := by
  cases v with
  | none => rfl
  | some value =>
    rw [withNodes, Option.mapM_some]
    cases NodeCount.parse value <;> rfl

theorem withProcesses_eq (l : ElasticLaunch) (v : Option String) :
    l.withProcesses v = (fun n => l.override { processes := n }) <$> v.mapM readProcesses := by
  cases v with
  | none => rfl
  | some value =>
    rw [withProcesses, Option.mapM_some, readProcesses]
    cases readVariable processesVariable value with
    | error cause => rfl
    | ok n =>
      change (if n = 0 then _ else _) = _ <$> _ <$> (if n = 0 then _ else _)
      split_ifs <;> rfl

theorem withRestarts_eq (l : ElasticLaunch) (v : Option String) :
    l.withRestarts v = (fun n => l.override { restarts := n }) <$> v.mapM (readVariable restartsVariable) := by
  cases v with
  | none => rfl
  | some value =>
    rw [withRestarts, Option.mapM_some]
    cases readVariable restartsVariable value <;> rfl

theorem withMonitor_eq (l : ElasticLaunch) (v : Option String) :
    l.withMonitor v = (fun n => l.override { monitor := n }) <$> v.mapM (readVariable monitorVariable) := by
  cases v with
  | none => rfl
  | some value =>
    rw [withMonitor, Option.mapM_some]
    cases readVariable monitorVariable value <;> rfl

/-- what an environment gives does not depend on the launch that takes it -/
theorem withEnvironment_eq (l : ElasticLaunch) (env : Environment) :
    l.withEnvironment env = l.override <$> readOverrides env := by
  simp only [withEnvironment, readOverrides, withNodes_eq, withProcesses_eq, withRestarts_eq, withMonitor_eq,
    bind_map_left, map_bind, map_pure]
  rfl

/-! ## What the variables hold -/

/-- the text holds a count of processes -/
def HoldsProcesses (value : String) (n : UInt32) : Prop := Text.HoldsCount value.toList n ∧ n ≠ 0

/-- what the variables of an environment hold, and nothing for those that are not set -/
structure Reads (env : Environment) (r : Overrides) : Prop where
  nodes : Option.Rel (fun value c => NodeCount.Written value.toList c) (env nodesVariable) r.nodes
  processes : Option.Rel HoldsProcesses (env processesVariable) r.processes
  restarts : Option.Rel (fun value n => Text.HoldsCount value.toList n) (env restartsVariable) r.restarts
  monitor : Option.Rel (fun value n => Text.HoldsCount value.toList n) (env monitorVariable) r.monitor
  endpoint : r.endpoint = env endpointVariable

theorem readVariable_eq_ok_iff (name value : String) (n : UInt32) :
    readVariable name value = .ok n ↔ Text.HoldsCount value.toList n := by
  rw [← Text.count?_trim_eq_some_iff, readVariable]
  cases Text.count? (Text.trim value.toList) <;> simp

theorem readProcesses_eq_ok_iff (value : String) (n : UInt32) : readProcesses value = .ok n ↔ HoldsProcesses value n := by
  rw [readProcesses, HoldsProcesses, ← readVariable_eq_ok_iff processesVariable]
  constructor
  · intro h
    obtain ⟨m, hm, h⟩ := of_bind_eq_ok h
    split_ifs at h with hzero
    cases h
    exact ⟨hm, hzero⟩
  · rintro ⟨hn, hzero⟩
    rw [hn]
    exact if_neg hzero

theorem readOverrides_eq_ok_iff {env : Environment} {r : Overrides} : readOverrides env = .ok r ↔ Reads env r := by
  constructor
  · intro h
    obtain ⟨nodes, hnodes, h⟩ := of_bind_eq_ok h
    obtain ⟨processes, hprocesses, h⟩ := of_bind_eq_ok h
    obtain ⟨restarts, hrestarts, h⟩ := of_bind_eq_ok h
    obtain ⟨monitor, hmonitor, h⟩ := of_bind_eq_ok h
    cases h
    exact {
      nodes := (mapM_eq_ok_iff NodeCount.parse_eq_ok_iff).1 hnodes
      processes := (mapM_eq_ok_iff readProcesses_eq_ok_iff).1 hprocesses
      restarts := (mapM_eq_ok_iff (readVariable_eq_ok_iff _)).1 hrestarts
      monitor := (mapM_eq_ok_iff (readVariable_eq_ok_iff _)).1 hmonitor
      endpoint := rfl }
  · intro h
    rw [readOverrides, (mapM_eq_ok_iff NodeCount.parse_eq_ok_iff).2 h.nodes,
      (mapM_eq_ok_iff readProcesses_eq_ok_iff).2 h.processes, (mapM_eq_ok_iff (readVariable_eq_ok_iff _)).2 h.restarts,
      (mapM_eq_ok_iff (readVariable_eq_ok_iff _)).2 h.monitor, ← h.endpoint]
    rfl

/-- every variable that is set holds what it should -/
structure WellFormed (env : Environment) : Prop where
  nodes : ∀ value, env nodesVariable = some value → ∃ c, NodeCount.Written value.toList c
  processes : ∀ value, env processesVariable = some value → ∃ n, Text.HoldsCount value.toList n ∧ n ≠ 0
  restarts : ∀ value, env restartsVariable = some value → ∃ n, Text.HoldsCount value.toList n
  monitor : ∀ value, env monitorVariable = some value → ∃ n, Text.HoldsCount value.toList n

theorem exists_rel_iff {α β : Type} {R : α → β → Prop} {x : Option α} :
    (∃ y, Option.Rel R x y) ↔ ∀ a, x = some a → ∃ b, R a b := by
  cases x with
  | none => exact iff_of_true ⟨none, .none⟩ fun _ h => by cases h
  | some a =>
    constructor
    · rintro ⟨_, h⟩ a' ha'
      cases ha'
      cases h with
      | some h => exact ⟨_, h⟩
    · intro h
      obtain ⟨b, hb⟩ := h a rfl
      exact ⟨some b, .some hb⟩

theorem wellFormed_iff (env : Environment) : WellFormed env ↔ ∃ r, Reads env r := by
  constructor
  · rintro ⟨hnodes, hprocesses, hrestarts, hmonitor⟩
    obtain ⟨nodes, hnodes⟩ := exists_rel_iff.2 hnodes
    obtain ⟨processes, hprocesses⟩ := exists_rel_iff.2 hprocesses
    obtain ⟨restarts, hrestarts⟩ := exists_rel_iff.2 hrestarts
    obtain ⟨monitor, hmonitor⟩ := exists_rel_iff.2 hmonitor
    exact ⟨⟨nodes, processes, restarts, monitor, _⟩, hnodes, hprocesses, hrestarts, hmonitor, rfl⟩
  · rintro ⟨r, hnodes, hprocesses, hrestarts, hmonitor, _⟩
    exact ⟨exists_rel_iff.1 ⟨_, hnodes⟩, exists_rel_iff.1 ⟨_, hprocesses⟩, exists_rel_iff.1 ⟨_, hrestarts⟩,
      exists_rel_iff.1 ⟨_, hmonitor⟩⟩

/-! ## What an environment is refused for -/

/-- what is wrong with an environment -/
inductive Fault (env : Environment) : Misconfiguration → Prop
  | nodes {value : String} {cause : Misconfiguration} (hset : env nodesVariable = some value)
      (h : NodeCount.Refused value cause) : Fault env cause
  | noCount {name value : String} (hname : name ∈ [processesVariable, restartsVariable, monitorVariable])
      (hset : env name = some value) (h : ∀ n, ¬ Text.HoldsCount value.toList n) : Fault env (.malformedVariable name value)
  | noProcesses {value : String} (hset : env processesVariable = some value) (h : Text.HoldsCount value.toList 0) :
      Fault env (.zeroVariable processesVariable)

theorem fault_of_readVariable {env : Environment} {name value : String} {cause : Misconfiguration}
    (hname : name ∈ [processesVariable, restartsVariable, monitorVariable]) (hset : env name = some value)
    (h : readVariable name value = .error cause) : Fault env cause := by
  have hnone : ∀ n, ¬ Text.HoldsCount value.toList n := by
    intro n hn
    rw [(readVariable_eq_ok_iff name value n).2 hn] at h
    cases h
  unfold readVariable at h
  split at h <;> cases h
  exact .noCount hname hset hnone

theorem fault_of_readProcesses {env : Environment} {value : String} {cause : Misconfiguration}
    (hset : env processesVariable = some value) (h : readProcesses value = .error cause) : Fault env cause := by
  rcases of_bind_eq_error h with h | ⟨n, hn, h⟩
  · exact fault_of_readVariable (by simp) hset h
  · split_ifs at h with hzero
    · cases h
      exact .noProcesses hset (hzero ▸ (readVariable_eq_ok_iff _ _ _).1 hn)
    · cases h

theorem fault_of_readOverrides {env : Environment} {cause : Misconfiguration} (h : readOverrides env = .error cause) :
    Fault env cause := by
  rcases of_bind_eq_error h with h | ⟨_, _, h⟩
  · obtain ⟨value, hset, hread⟩ := of_mapM_eq_error h
    exact .nodes hset (NodeCount.refused_of_parse hread)
  rcases of_bind_eq_error h with h | ⟨_, _, h⟩
  · obtain ⟨value, hset, hread⟩ := of_mapM_eq_error h
    exact fault_of_readProcesses hset hread
  rcases of_bind_eq_error h with h | ⟨_, _, h⟩
  · obtain ⟨value, hset, hread⟩ := of_mapM_eq_error h
    exact fault_of_readVariable (by simp) hset hread
  rcases of_bind_eq_error h with h | ⟨_, _, h⟩
  · obtain ⟨value, hset, hread⟩ := of_mapM_eq_error h
    exact fault_of_readVariable (by simp) hset hread
  · cases h

/-! ## Launches under an environment -/

/-- a launch that can be run: at least one node and one process on each, and a range of nodes that does not fall -/
structure Runnable (l : ElasticLaunch) : Prop where
  nodes : 1 ≤ l.minNodes ∧ l.minNodes ≤ l.maxNodes
  processes : 1 ≤ l.processesPerNode

theorem Runnable.override {l : ElasticLaunch} (h : l.Runnable) {env : Environment} {r : Overrides} (hr : Reads env r) :
    (l.override r).Runnable := by
  obtain ⟨nodes, processes, restarts, monitor, endpoint⟩ := r
  have hnodes := hr.nodes
  have hprocesses := hr.processes
  generalize env nodesVariable = nodesValue at hnodes
  generalize env processesVariable = processesValue at hprocesses
  constructor
  · cases hnodes with
    | none => exact h.nodes
    | some hwritten => exact hwritten.isValid
  · cases hprocesses with
    | none => exact h.processes
    | some hheld => exact UInt32.pos_iff_ne_zero.2 hheld.2

/-- **An environment is taken as a whole or not at all.** Whatever the launch, the environment is accepted just when
every variable of a launch that is set in it is well formed, and else refused as an invalid configuration for one that is
not. Once accepted, what the variables hold stands in place of the launch's own values: nodes, processes, restarts,
monitor interval and endpoint as far as they are set, and nothing else. A launch that can be run can be run afterwards,
and the same environment changes nothing more. -/
theorem environment_is_taken_as_a_whole (l : ElasticLaunch) (env : Environment) :
    ((∃ l', l.withEnvironment env = .ok l') ↔ WellFormed env) ∧
    (∀ e, (l.withEnvironment env).mapError Error.configuration = .error e →
      ∃ cause, e = .configuration cause ∧ Fault env cause) ∧
    ∀ l', l.withEnvironment env = .ok l' →
      (∃ r, Reads env r ∧ l' = l.override r) ∧ (l.Runnable → l'.Runnable) ∧ l'.withEnvironment env = .ok l' := by
  simp only [withEnvironment_eq]
  refine ⟨?_, fun e he => ?_, fun l' h => ?_⟩
  · rw [isOk_map_iff, wellFormed_iff]
    simp only [readOverrides_eq_ok_iff]
  · obtain ⟨cause, hcause, rfl⟩ := of_mapError_eq_error he
    exact ⟨cause, rfl, fault_of_readOverrides (of_map_eq_error hcause)⟩
  · obtain ⟨r, hr, rfl⟩ := of_map_eq_ok h
    have hreads := readOverrides_eq_ok_iff.1 hr
    refine ⟨⟨r, hreads, rfl⟩, fun hl => hl.override hreads, ?_⟩
    rw [hr]
    exact congrArg Except.ok (l.override_idem r)

/-- an environment of all variables, with signs, blanks and zeros where they may stand -/
def spelledOut : Environment := (Dict.ofList [(nodesVariable, " 3 : +06"), (processesVariable, "04\n"),
  (restartsVariable, "+0"), (monitorVariable, "4294967295"), (endpointVariable, " head:29400")]).find?

/-- the law at a launch of two nodes that takes all of it, and at one variable that spoils the rest -/
theorem spelled_out_is_taken :
    let l : ElasticLaunch := .ofConfig { nodes := .fixed 2 } "c10d"
    let taken : ElasticLaunch := { l with
      minNodes := 3, maxNodes := 6, processesPerNode := 4, maxRestarts := 0, monitorInterval := 4294967295,
      endpoint := " head:29400" }
    l.withEnvironment spelledOut = .ok taken ∧ taken.Runnable ∧ taken.withEnvironment spelledOut = .ok taken ∧
    ¬ ∃ l', l.withEnvironment (fun name => if name = restartsVariable then some "-0" else spelledOut name) = .ok l' := by
  intro l taken
  have htaken : l.withEnvironment spelledOut = .ok taken := by decide +kernel
  obtain ⟨_, hrunnable, hagain⟩ := (environment_is_taken_as_a_whole l spelledOut).2.2 taken htaken
  refine ⟨htaken, hrunnable ⟨by decide, by decide⟩, hagain, fun hspoilt => ?_⟩
  obtain ⟨n, hn⟩ := ((environment_is_taken_as_a_whole l _).1.1 hspoilt).restarts "-0" rfl
  have hread := (readVariable_eq_ok_iff restartsVariable "-0" n).2 hn
  have hrefused : readVariable restartsVariable "-0" = .error (.malformedVariable restartsVariable "-0") := by
    decide +kernel
  rw [hrefused] at hread
  cases hread

end TrainingJobs.ElasticLaunch
