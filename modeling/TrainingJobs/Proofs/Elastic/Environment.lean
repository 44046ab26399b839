/-
What a plan writes into the environment of its replicas and what a replica takes from it. A launch is written as four
variables, which stand over those of the template; the template's own endpoint and number of threads stay. Whatever
launch a replica starts from, it ends up with the counts of the plan.

- `parse_text`: a node count that is written passes its own check again when it is read;
- `find?_replicaEnvironment`: each variable of a replica, and where it comes from;
- `withEnvironment_eq_ok`: an environment that holds the variables of a launch gives the launch back;
- `replica_reads_its_plan`: so does the environment of the workers of every plan.
-/
import TrainingJobs.Plan
import TrainingJobs.Proofs.Job.Build
import TrainingJobs.Proofs.Text.Numeral

namespace TrainingJobs

/-! ## Node counts -/

namespace NodeCount

theorem parts_eq_splitOn (cs : List Char) : parts cs = cs.splitOn ':' := by
  induction cs with
  | nil => rfl
  | cons c rest ih =>
    rw [parts, List.splitOn_cons_eq_if_modifyHead, ih]
    by_cases hc : c = ':'
    · simp [hc]
    · cases hrest : rest.splitOn ':' with
      | nil => exact absurd hrest (List.splitOn_ne_nil _ _)
      | cons first more => simp [hc]

theorem bound_digits (whole : String) (n : UInt32) : bound whole (Text.digits n.toNat) = .ok n := by
  have hsign : (Text.digits n.toNat).head? ≠ some '-' := fun h =>
    Text.not_mem_digits (by decide) _ (List.mem_of_mem_head? h)
  simp only [bound, Text.trim_digits, if_neg hsign, Text.count?_digits]

/-- what is written of a count is read as that count, which then has to pass its check -/
theorem parse_text (c : NodeCount) : parse c.text = c.check := by
  have hcolon : ∀ n, ':' ∉ Text.digits n := Text.not_mem_digits (by decide)
  cases c with
  | fixed n =>
    have hparts : parts (fixed n).text.toList = [Text.digits n.toNat] := by
      rw [text, Text.toList_decimal, parts_eq_splitOn, List.splitOn_eq_singleton (hcolon _)]
    rw [parse, hparts]
    simp only [bound_digits]
    rfl
  | range lo hi =>
    have hparts : parts (range lo hi).text.toList = [Text.digits lo.toNat, Text.digits hi.toNat] := by
      rw [text, String.toList_append, String.toList_append, Text.toList_decimal, Text.toList_decimal, List.append_assoc,
        parts_eq_splitOn, ← List.splitOn_eq_singleton (hcolon hi.toNat)]
      exact List.splitOn_append_cons_self_of_not_mem (hcolon _) _
    rw [parse, hparts]
    simp only [bound_digits]
    rfl

end NodeCount

namespace ElasticLaunch

theorem readVariable_decimal (name : String) (n : UInt32) : readVariable name (Text.decimal n.toNat) = .ok n := by
  rw [readVariable, Text.toList_decimal, Text.trim_digits, Text.count?_digits]

/-! ## The variables of a launch -/

theorem find?_launchVariables (l : ElasticLaunch) (name : String) : l.launchVariables.find? name =
    List.lookup name [(nodesVariable, l.nodesText), (processesVariable, Text.decimal l.processesPerNode.toNat),
      (restartsVariable, Text.decimal l.maxRestarts.toNat), (monitorVariable, Text.decimal l.monitorInterval.toNat)] :=
  Dict.find?_ofList (by simp [nodesVariable, processesVariable, restartsVariable, monitorVariable]) name

/-- the launch with the counts of the planned one, and that endpoint if there is one -/
def following (l planned : ElasticLaunch) (endpoint : Option String) : ElasticLaunch :=
  { l with
    minNodes := planned.minNodes
    maxNodes := planned.maxNodes
    processesPerNode := planned.processesPerNode
    maxRestarts := planned.maxRestarts
    monitorInterval := planned.monitorInterval
    endpoint := endpoint.getD l.endpoint }

/-- an environment that holds the variables of a launch gives its counts to every launch -/
theorem withEnvironment_eq_ok {planned : ElasticLaunch}
    (hnodes : (NodeCount.range planned.minNodes planned.maxNodes).IsValid) (hprocesses : planned.processesPerNode ≠ 0)
    {env : Environment} (henv : ∀ name value, planned.launchVariables.find? name = some value → env name = some value)
    (l : ElasticLaunch) : l.withEnvironment env = .ok (l.following planned (env endpointVariable)) := by
  have hn : env nodesVariable = some planned.nodesText := henv _ _ (find?_launchVariables planned _)
  have hp : env processesVariable = some (Text.decimal planned.processesPerNode.toNat) :=
    henv _ _ (find?_launchVariables planned _)
  have hr : env restartsVariable = some (Text.decimal planned.maxRestarts.toNat) :=
    henv _ _ (find?_launchVariables planned _)
  have hm : env monitorVariable = some (Text.decimal planned.monitorInterval.toNat) :=
    henv _ _ (find?_launchVariables planned _)
  have hparse : NodeCount.parse planned.nodesText = .ok (.range planned.minNodes planned.maxNodes) :=
    (NodeCount.parse_text _).trans ((NodeCount.check_eq_ok_iff _ _).2 ⟨rfl, hnodes⟩)
  simp only [withEnvironment, hn, hp, hr, hm, withNodes, hparse, withProcesses, readVariable_decimal, withRestarts,
    withMonitor, bind, Except.bind, Except.map, if_neg hprocesses]
  rfl

theorem find?_threadVariables (l : ElasticLaunch) (env : Environment) (name : String) :
    (l.threadVariables env).find? name =
      if (1 < l.processesPerNode ∧ env threadsVariable = none) ∧ name = threadsVariable then some "1" else none := by
  rw [threadVariables]
  by_cases hset : 1 < l.processesPerNode ∧ env threadsVariable = none
  · have hcondition : (l.processesPerNode > 1 && (env threadsVariable).isNone) = true := by simp [hset.1, hset.2]
    rw [if_pos hcondition, Dict.find?_ofList (by simp)]
    simp only [Dict.lookup_cons_eq_ite, List.lookup_nil, hset, true_and, eq_comm]
  · have hcondition : ¬ (l.processesPerNode > 1 && (env threadsVariable).isNone) = true := by simpa using hset
    rw [if_neg hcondition, if_neg fun h => hset h.1, Dict.find?_empty]

theorem threadVariables_eq_empty {l : ElasticLaunch} {env : Environment}
    (h : 1 < l.processesPerNode → env threadsVariable ≠ none) : l.threadVariables env = ∅ := by
  refine Dict.ext_find? fun name => ?_
  rw [find?_threadVariables, if_neg fun hset => h hset.1.1 hset.1.2, Dict.find?_empty]

/-! ## The environment of a replica -/

/-- what an elastic job makes of the template's environment -/
def replicaEnvironment (planned : ElasticLaunch) (template : Dict String) : Dict String :=
  let env := template.overlay planned.launchVariables
  env.overlay (planned.threadVariables env.find?)

/-- the variables of the launch stand over the template's, the number of threads stands below -/
theorem find?_replicaEnvironment (planned : ElasticLaunch) (template : Dict String) (name : String) :
    (planned.replicaEnvironment template).find? name =
      (planned.launchVariables.find? name).or ((template.find? name).or
        (if 1 < planned.processesPerNode ∧ name = threadsVariable then some "1" else none)) := by
  -- the number of threads is looked up with the launch's variables in place, none of which is that number
  have hlaunch : planned.launchVariables.find? threadsVariable = none := find?_launchVariables planned _
  rw [replicaEnvironment, Dict.find?_overlay, Dict.find?_overlay, find?_threadVariables, Dict.find?_overlay, hlaunch,
    Option.none_or]
  by_cases hname : name = threadsVariable
  · subst hname
    cases template.find? threadsVariable <;> simp [hlaunch]
  · simp [hname]

theorem find?_replicaEnvironment_endpoint (planned : ElasticLaunch) (template : Dict String) :
    (planned.replicaEnvironment template).find? endpointVariable = template.find? endpointVariable := by
  have hlaunch : planned.launchVariables.find? endpointVariable = none := find?_launchVariables planned _
  have hname : ¬ (1 < planned.processesPerNode ∧ endpointVariable = threadsVariable) := fun h => absurd h.2 (by decide)
  rw [find?_replicaEnvironment, hlaunch, Option.none_or, if_neg hname, Option.or_none]

theorem find?_replicaEnvironment_threads {planned : ElasticLaunch} (template : Dict String)
    (h : 1 < planned.processesPerNode) : (planned.replicaEnvironment template).find? threadsVariable ≠ none := by
  rw [find?_replicaEnvironment, if_pos ⟨h, rfl⟩]
  simp

end ElasticLaunch

/-! ## Plans -/

/-- nodes and processes are such as a launch can have -/
structure ElasticConfig.Sound (config : ElasticConfig) : Prop where
  nodes : config.nodes.IsValid
  processes : config.processesPerNode ≠ 0

theorem ElasticConfig.mode_eq_ok_iff {config : ElasticConfig} {backend : String} {mode : Mode} :
    config.mode backend = .ok mode ↔
      config.Sound ∧ mode = if config.nodes.max = 1 then .singleNode else .multiNode (.ofConfig config backend) := by
  unfold ElasticConfig.mode
  constructor
  · intro h
    obtain ⟨nodes, hnodes, h⟩ := of_bind_eq_ok h
    obtain ⟨rfl, hvalid⟩ := (NodeCount.check_eq_ok_iff _ _).1 hnodes
    by_cases hprocesses : config.processesPerNode = 0
    · rw [if_pos hprocesses] at h
      cases h
    · rw [if_neg hprocesses] at h
      exact ⟨⟨hvalid, hprocesses⟩, (Except.ok.inj h).symm⟩
  · rintro ⟨⟨hvalid, hprocesses⟩, rfl⟩
    rw [(NodeCount.check_eq_ok_iff _ _).2 ⟨rfl, hvalid⟩]
    change (if config.processesPerNode = 0 then _ else _) = _
    rw [if_neg hprocesses]
    rfl

/-- the one thing left that can be wrong with a configuration of a valid count -/
theorem ElasticConfig.mode_eq_error_iff {config : ElasticConfig} (h : config.nodes.IsValid) (backend : String)
    (cause : Misconfiguration) :
    config.mode backend = .error cause ↔ config.processesPerNode = 0 ∧ cause = .zeroProcesses := by
  by_cases hzero : config.processesPerNode = 0
  · have hmode : config.mode backend = .error .zeroProcesses := by
      rw [mode, (NodeCount.check_eq_ok_iff _ _).2 ⟨rfl, h⟩]
      change (if config.processesPerNode = 0 then _ else _) = _
      rw [if_pos hzero]
      rfl
    rw [hmode]
    simp [hzero, eq_comm]
  · rw [mode_eq_ok_iff.2 ⟨⟨h, hzero⟩, rfl⟩]
    simp [hzero]

theorem ElasticConfig.mode_eq_multiNode {config : ElasticConfig} {backend : String} {planned : ElasticLaunch}
    (h : config.mode backend = .ok (.multiNode planned)) :
    config.nodes.IsValid ∧ config.processesPerNode ≠ 0 ∧ planned = .ofConfig config backend := by
  obtain ⟨hsound, hmode⟩ := mode_eq_ok_iff.1 h
  split_ifs at hmode
  exact ⟨hsound.nodes, hsound.processes, Mode.multiNode.inj hmode⟩

namespace Plan

theorem eq_distributed_of_isSome {ε : Type} {x : Except ε Plan}
    (h : (x.toOption.bind submission?).isSome = true) : ∃ s, x = .ok (.distributed s) := by
  obtain ⟨plan, hplan⟩ := eq_ok_of_isSome (Option.isSome_of_isSome_bind h)
  rw [hplan] at h ⊢
  cases plan with
  | singleProcess => cases h
  | distributed s => exact ⟨s, rfl⟩

theorem ofElastic_eq_distributed {defaults : JobDefaults} {task : ElasticTask} {execution : Execution}
    {template : RoleSpec} {s : Submission} (h : ofElastic defaults task execution template = .ok (.distributed s)) :
    ∃ planned, task.mode defaults.backend = .ok (.multiNode planned) ∧
      (elasticJob defaults execution planned task.config template).build = .ok s := by
  obtain ⟨mode, hmode, h⟩ := of_bind_eq_ok h
  cases mode with
  | singleNode => cases h
  | multiNode planned =>
    obtain ⟨built, hbuild, hbuilt⟩ := of_map_eq_ok h
    cases hbuilt
    exact ⟨planned, hmode, hbuild⟩

theorem elasticJob_eq (defaults : JobDefaults) (execution : Execution) (planned : ElasticLaunch)
    (config : ElasticConfig) (template : RoleSpec) :
    elasticJob defaults execution planned config template = {
      execution := execution
      roles := [(workerRole,
        { template with replicas := planned.maxNodes, env := planned.replicaEnvironment template.env })]
      required := .insert ∅ workerRole ()
      runPolicy := config.runPolicy.getD {}
      launch := some planned
      sharedMemory := config.sharedMemory && defaults.sharedMemory
      defaultImage := defaults.image } := by
  rw [elasticJob]
  cases defaults.image <;> rfl

theorem elasticJob_roles (defaults : JobDefaults) (execution : Execution) (planned : ElasticLaunch)
    (config : ElasticConfig) (template : RoleSpec) :
    (elasticJob defaults execution planned config template).roles = [(workerRole,
      { template with replicas := planned.maxNodes, env := planned.replicaEnvironment template.env })] := by
  rw [elasticJob_eq]

/-- the workers of an elastic job: as many as there are nodes at most, with the variables of the launch -/
theorem find?_worker_eq {defaults : JobDefaults} {execution : Execution} {planned : ElasticLaunch}
    {config : ElasticConfig} {template : RoleSpec} {s : Submission}
    (h : (elasticJob defaults execution planned config template).Built s) :
    s.roles.find? workerRole = some ((elasticJob defaults execution planned config template).resolved
      { template with replicas := planned.maxNodes, env := planned.replicaEnvironment template.env }) := by
  have hroles := h.entries_perm
  rw [elasticJob_roles] at hroles
  exact (s.roles.find?_eq_some_iff _ _).2 (hroles.mem_iff.2 List.mem_cons_self)

theorem find?_worker {defaults : JobDefaults} {execution : Execution} {planned : ElasticLaunch}
    {config : ElasticConfig} {template : RoleSpec} {s : Submission}
    (h : (elasticJob defaults execution planned config template).Built s) :
    ∃ worker, s.roles.find? workerRole = some worker ∧ worker.env = planned.replicaEnvironment template.env :=
  ⟨_, find?_worker_eq h, rfl⟩

/-- **A replica reads its plan back.** Let an elastic task be planned as a job, whatever its template sets. Every launch
accepts the environment of the workers and then has the nodes, processes, restarts and monitor interval of the planned
launch, the template's endpoint if it sets one, and all else as before. To that environment it adds no variable. -/
theorem replica_reads_its_plan {defaults : JobDefaults} {task : ElasticTask} {execution : Execution}
    {template : RoleSpec} {s : Submission} (h : ofElastic defaults task execution template = .ok (.distributed s)) :
    ∃ planned worker, task.mode defaults.backend = .ok (.multiNode planned) ∧
      s.roles.find? workerRole = some worker ∧ ∀ l : ElasticLaunch,
        let resolved := l.following planned (template.env.find? ElasticLaunch.endpointVariable)
        l.withEnvironment worker.env.find? = .ok resolved ∧ resolved.threadVariables worker.env.find? = ∅ := by
  obtain ⟨planned, hmode, hbuild⟩ := ofElastic_eq_distributed h
  obtain ⟨hnodes, hprocesses, hplanned⟩ := ElasticConfig.mode_eq_multiNode hmode
  obtain ⟨worker, hworker, henv⟩ := find?_worker ((JobDraft.build_eq_ok_iff _ s).1 hbuild)
  refine ⟨planned, worker, hmode, hworker, fun l => ⟨?_, ?_⟩⟩
  · rw [henv, ← planned.find?_replicaEnvironment_endpoint template.env]
    refine ElasticLaunch.withEnvironment_eq_ok ?_ ?_ ?_ l
    · rw [hplanned]
      exact hnodes
    · rw [hplanned]
      exact hprocesses
    · intro name value hvalue
      rw [ElasticLaunch.find?_replicaEnvironment, hvalue, Option.some_or]
  · rw [henv]
    exact ElasticLaunch.threadVariables_eq_empty (planned.find?_replicaEnvironment_threads template.env)

/-- a template that sets variables of a launch itself, some to what no launch can take -/
def cluttered : RoleSpec where
  image := some "trainer:1.0"
  env := .ofList [(ElasticLaunch.nodesVariable, "many"), (ElasticLaunch.restartsVariable, "-1"),
    (ElasticLaunch.endpointVariable, "head:29400"), (ElasticLaunch.threadsVariable, "6")]

def elasticTask : ElasticTask := ⟨"train", { nodes := .range 2 4, processesPerNode := 8 }⟩

/-- the law at a template whose environment no launch can take -/
theorem cluttered_template_is_read : ∃ s worker,
    ofElastic {} elasticTask { name := "train" } cluttered = .ok (.distributed s) ∧
      s.roles.find? workerRole = some worker ∧
      (default : ElasticLaunch).withEnvironment worker.env.find? = .ok { (default : ElasticLaunch) with
        minNodes := 2, maxNodes := 4, processesPerNode := 8, monitorInterval := 5, endpoint := "head:29400" } := by
  have hplan : ((ofElastic {} elasticTask { name := "train" } cluttered).toOption.bind submission?).isSome = true := by
    decide +kernel
  obtain ⟨s, h⟩ := eq_distributed_of_isSome hplan
  obtain ⟨planned, worker, hmode, hworker, hread⟩ := replica_reads_its_plan h
  obtain ⟨_, _, hplanned⟩ := ElasticConfig.mode_eq_multiNode hmode
  refine ⟨s, worker, h, hworker, (hread default).1.trans ?_⟩
  rw [hplanned]
  decide +kernel

end Plan

end TrainingJobs
