/-
Which way a declaration goes. One of masters and workers becomes a job or is refused. Any other runs as one process just
when its configuration is sound and allows one node at most; else it becomes a job of two workers or more, or is refused.
A host that asks for the type by node count and processes alone is told the same: it reads the count as a declaration
does, and nothing else decides.

- `ofElastic_eq_singleProcess_iff`, `ofElastic_isError`, `ofElastic_workers`: the ways of an elastic task;
- `routed`: the way of every declaration;
- `Declares.config`: the nodes and processes of a written declaration, whatever else is written there;
- `declarations_are_routed`: all of it, and that the type of every plan is the one that is told.
-/
import TrainingJobs.HostCall
import TrainingJobs.Proofs.Elastic.Environment
import TrainingJobs.Proofs.Json.Record

namespace TrainingJobs

/-- the type of a task is told by its nodes alone -/
theorem ElasticConfig.taskType_of_mode {config : ElasticConfig} {backend : String} {mode : Mode}
    (h : config.mode backend = .ok mode) :
    mode.taskType = if config.nodes.max = 1 then .singleProcess else .distributed := by
  obtain ⟨_, rfl⟩ := mode_eq_ok_iff.1 h
  split_ifs <;> rfl

/-- the elastic configuration of a task; one that declares none has the default -/
def TaskDeclaration.config (task : TaskDeclaration) : ElasticConfig := task.elastic.getD {}

namespace Plan

variable {defaults : JobDefaults} {task : TaskDeclaration} {execution : Execution} {template : RoleSpec}

/-! ## Elastic tasks -/

theorem ofDeclaration_elastic (h : task.masterWorker = none) : ofDeclaration defaults task =
    ofElastic defaults ⟨task.name, task.config⟩ task.execution task.worker := by
  unfold ofDeclaration TaskDeclaration.config
  rw [h]
  cases task.elastic <;> rfl

/-- the type of a plan is that of the mode of its task -/
theorem ofElastic_mode {elastic : ElasticTask} {plan : Plan}
    (h : ofElastic defaults elastic execution template = .ok plan) :
    ∃ mode, elastic.mode defaults.backend = .ok mode ∧ mode.taskType = plan.taskType := by
  obtain ⟨mode, hmode, h⟩ := of_bind_eq_ok h
  refine ⟨mode, hmode, ?_⟩
  cases mode with
  | singleNode =>
    cases h
    rfl
  | multiNode planned =>
    obtain ⟨s, _, rfl⟩ := of_map_eq_ok h
    rfl

theorem ofElastic_eq_singleProcess_iff (elastic : ElasticTask) :
    ofElastic defaults elastic execution template = .ok .singleProcess ↔
      elastic.config.Sound ∧ elastic.config.nodes.max = 1 := by
  constructor
  · intro h
    obtain ⟨mode, hmode, htype⟩ := ofElastic_mode h
    refine ⟨(ElasticConfig.mode_eq_ok_iff.1 hmode).1, ?_⟩
    by_contra hmany
    rw [ElasticConfig.taskType_of_mode hmode, if_neg hmany] at htype
    cases htype
  · rintro ⟨hsound, hone⟩
    have hmode : elastic.mode defaults.backend = .ok .singleNode :=
      ElasticConfig.mode_eq_ok_iff.2 ⟨hsound, (if_pos hone).symm⟩
    rw [ofElastic, hmode]
    rfl

theorem ofElastic_isError {elastic : ElasticTask} (h : ¬ elastic.config.Sound) :
    ∃ cause, ofElastic defaults elastic execution template = .error cause := by
  cases hplan : ofElastic defaults elastic execution template with
  | error cause => exact ⟨cause, rfl⟩
  | ok plan =>
    obtain ⟨mode, hmode, _⟩ := ofElastic_mode hplan
    exact absurd (ElasticConfig.mode_eq_ok_iff.1 hmode).1 h

/-- a job has as many workers as its configuration allows nodes, of which one would have made it no job -/
theorem ofElastic_workers {elastic : ElasticTask} {s : Submission}
    (h : ofElastic defaults elastic execution template = .ok (.distributed s)) :
    ∃ worker, s.roles.find? workerRole = some worker ∧ 2 ≤ worker.replicas := by
  obtain ⟨planned, hmode, hbuild⟩ := ofElastic_eq_distributed h
  refine ⟨_, find?_worker_eq ((JobDraft.build_eq_ok_iff _ s).1 hbuild), ?_⟩
  obtain ⟨hsound, hplanned⟩ := ElasticConfig.mode_eq_ok_iff.1 hmode
  split_ifs at hplanned with hone
  have hpositive : 1 ≤ elastic.config.nodes.max := UInt32.le_trans hsound.nodes.1 hsound.nodes.2
  have hmany : 1 < elastic.config.nodes.max := UInt32.lt_of_le_of_ne hpositive (Ne.symm hone)
  cases hplanned
  exact UInt32.le_iff_toNat_le.2 (UInt32.lt_iff_toNat_lt.1 hmany)

/-! ## Tasks of master and workers -/

theorem ofMasterWorker_ne_singleProcess (config : MasterWorkerConfig) :
    ofMasterWorker defaults config execution template ≠ .ok .singleProcess := by
  intro h
  unfold ofMasterWorker at h
  split at h
  · cases h
  · obtain ⟨draft, _, h⟩ := of_bind_eq_ok h
    obtain ⟨s, _, h⟩ := of_map_eq_ok h
    cases h

/-! ## Every task -/

/-- what may come of a task, by what it declares -/
structure Routed (task : TaskDeclaration) (outcome : Except Misconfiguration Plan) : Prop where
  both : task.elastic.isSome = true → task.masterWorker.isSome = true → outcome = .error (.twoModes task.name)
  masters : task.elastic = none → task.masterWorker.isSome = true → outcome ≠ .ok .singleProcess
  unsound : task.masterWorker = none → ¬ task.config.Sound → ∃ cause, outcome = .error cause
  single : task.masterWorker = none → task.config.Sound → (outcome = .ok .singleProcess ↔ task.config.nodes.max = 1)
  workers : task.masterWorker = none → ∀ s, outcome = .ok (.distributed s) →
    ∃ worker, s.roles.find? workerRole = some worker ∧ 2 ≤ worker.replicas

theorem routed (defaults : JobDefaults) (task : TaskDeclaration) : Routed task (ofDeclaration defaults task) where
  both helastic hmasters := by
    obtain ⟨config, helastic⟩ := Option.isSome_iff_exists.1 helastic
    obtain ⟨masters, hmasters⟩ := Option.isSome_iff_exists.1 hmasters
    rw [ofDeclaration, helastic, hmasters]
  masters helastic hmasters := by
    obtain ⟨config, hmasters⟩ := Option.isSome_iff_exists.1 hmasters
    rw [ofDeclaration, helastic, hmasters]
    exact ofMasterWorker_ne_singleProcess config
  unsound hmasters hunsound := by
    rw [ofDeclaration_elastic hmasters]
    exact ofElastic_isError hunsound
  single hmasters hsound := by
    rw [ofDeclaration_elastic hmasters, ofElastic_eq_singleProcess_iff]
    exact and_iff_right hsound
  workers hmasters s hs := by
    rw [ofDeclaration_elastic hmasters] at hs
    exact ofElastic_workers hs

end Plan

/-! ## Written declarations -/

/-- a node count that is read of a declaration is taken by a call as well, and as the same -/
theorem HostCall.nodeCount_eq_ok {written : Json} {nodes : NodeCount} (h : NodeCount.ofJson written = .ok nodes) :
    HostCall.nodeCount written = .ok nodes := by
  unfold NodeCount.ofJson at h
  split at h
  · next n =>
    split_ifs at h with hword
    have hread : misconfigured (NodeCount.ofInt n) = .ok nodes := mapError_eq_ok_iff.2 (mapError_eq_ok_iff.1 h)
    exact (if_pos hword).trans hread
  · exact mapError_eq_ok_iff.2 (mapError_eq_ok_iff.1 h)
  · cases h

/-- the tag that is told of so many nodes and processes -/
def HostCall.tagTold (nodes : Json) (processes : UInt32) : Except HostFault String :=
  selectTaskType nodes [("nproc_per_node", .ofCount processes)]

/-- what is told is the type that every configuration of so many nodes and processes has, whatever else it sets -/
theorem HostCall.tagTold_eq_ok {written : Json} {config : ElasticConfig} {backend : String} {mode : Mode}
    (hnodes : NodeCount.ofJson written = .ok config.nodes) (hmode : config.mode backend = .ok mode) :
    HostCall.tagTold written config.processesPerNode = .ok mode.taskType.tag := by
  obtain ⟨hsound, _⟩ := ElasticConfig.mode_eq_ok_iff.1 hmode
  obtain ⟨bare, hbare⟩ : ∃ bare, ({ nodes := config.nodes, processesPerNode := config.processesPerNode } :
      ElasticConfig).mode defaultBackend = .ok bare :=
    ⟨_, ElasticConfig.mode_eq_ok_iff.2 ⟨⟨hsound.nodes, hsound.processes⟩, rfl⟩⟩
  have htype : bare.taskType = mode.taskType := by
    rw [ElasticConfig.taskType_of_mode hbare, ElasticConfig.taskType_of_mode hmode]
  have hcount : count [("nproc_per_node", .ofCount config.processesPerNode)] "nproc_per_node" 1 =
      .ok config.processesPerNode := by
    rw [count, valueOf, Json.field?_record (by simp)]
    exact asCount_ofCount _
  have hnames : checkNames ["nproc_per_node"] [("nproc_per_node", .ofCount config.processesPerNode)] = .ok () := rfl
  simp only [tagTold, selectTaskType, hnames, hcount, nodeCount_eq_ok hnodes, misconfigured, hbare, bind, Except.bind]
  rw [← htype]
  rfl

namespace ElasticConfig

theorem shows_nodes : Json.Shows slots "nnodes" NodeCount.ofJson nodes := by
  refine .cons_own (fun _ _ => rfl) ?_
  iterate 7 refine .cons_other (by decide) (fun _ _ => rfl) ?_
  exact .nil

theorem shows_processes : Json.Shows slots "nproc_per_node" Json.asCount processesPerNode := by
  refine .cons_other (by decide) (fun _ _ => rfl) (.cons_own (fun _ _ => rfl) ?_)
  iterate 6 refine .cons_other (by decide) (fun _ _ => rfl) ?_
  exact .nil

end ElasticConfig

namespace TaskDeclaration

theorem shows_elastic : Json.Shows slots "elastic" (Json.optional ElasticConfig.ofJson) elastic := by
  iterate 2 refine .cons_other (by decide) (fun _ _ => rfl) ?_
  refine .cons_own (fun _ _ => rfl) ?_
  iterate 2 refine .cons_other (by decide) (fun _ _ => rfl) ?_
  exact .nil

/-- a written declaration of an elastic task with so many nodes and processes, whatever else it says -/
def Declares (written nodes : Json) (processes : UInt32) : Prop :=
  ∃ elastic, Json.Gives slots "elastic" elastic written ∧
    Json.Gives ElasticConfig.slots "nnodes" nodes elastic ∧
    Json.Gives ElasticConfig.slots "nproc_per_node" (.ofCount processes) elastic

/-- such a declaration, when it can be read, is of a task with that configuration -/
theorem Declares.config {written nodes : Json} {processes : UInt32} {task : TaskDeclaration}
    (h : Declares written nodes processes) (hread : ofJson written = .ok task) :
    ∃ config, task.elastic = some config ∧ NodeCount.ofJson nodes = .ok config.nodes ∧
      config.processesPerNode = processes := by
  obtain ⟨elastic, helastic, hnodes, hprocesses⟩ := h
  have hoptional : Json.optional ElasticConfig.ofJson elastic = .ok task.elastic :=
    Json.of_readRecord shows_elastic (by decide) (by decide) helastic hread
  have hpresent : Json.optional ElasticConfig.ofJson elastic = (ElasticConfig.ofJson elastic).map some := by
    unfold Json.Gives at hnodes
    split at hnodes
    · rfl
    · rfl
    · cases hnodes
  rw [hpresent] at hoptional
  obtain ⟨config, hconfig, hsome⟩ := of_map_eq_ok hoptional
  have hcount : Json.asCount (.ofCount processes) = .ok config.processesPerNode :=
    Json.of_readRecord ElasticConfig.shows_processes (by decide) (by decide) hprocesses hconfig
  rw [Json.asCount_ofCount] at hcount
  exact ⟨config, hsome.symm, Json.of_readRecord ElasticConfig.shows_nodes (by decide) (by decide) hnodes hconfig,
    (Except.ok.inj hcount).symm⟩

end TaskDeclaration

namespace Plan

/-- when a declaration of so many nodes and processes is planned, the type is the one that is told -/
theorem tagTold_of_plan {defaults : JobDefaults} {written nodes : Json} {processes : UInt32} {task : TaskDeclaration}
    {plan : Plan} (h : TaskDeclaration.Declares written nodes processes) (hread : TaskDeclaration.ofJson written = .ok task)
    (hplan : ofDeclaration defaults task = .ok plan) : HostCall.tagTold nodes processes = .ok plan.taskType.tag := by
  obtain ⟨config, helastic, hnodes, rfl⟩ := h.config hread
  have hmasters : task.masterWorker = none := by
    by_contra hsome
    rw [(routed defaults task).both (helastic ▸ rfl) (Option.isSome_iff_ne_none.2 hsome)] at hplan
    cases hplan
  have hconfig : task.config = config := by rw [TaskDeclaration.config, helastic]; rfl
  rw [ofDeclaration_elastic hmasters, hconfig] at hplan
  obtain ⟨mode, hmode, htype⟩ := ofElastic_mode hplan
  rw [← htype]
  exact HostCall.tagTold_eq_ok hnodes hmode

/-- **Every declaration goes its way, and that way is told.** A task that declares both ways is refused. One with masters
and workers alone never runs as one process. Any other one is refused if its configuration has no valid node count or no
processes, else it runs as one process just when it allows one node at most, and if it becomes a job there are two
workers or more; whatever its template, its execution and the defaults are. Whatever is refused is refused for its
configuration. The type of a task is told beforehand by its nodes and processes: where none is told, no declaration of
them that can be read is planned, and every plan of one has the type that is told. -/
theorem declarations_are_routed (defaults : JobDefaults) :
    (∀ task, Routed task (ofDeclaration defaults task) ∧
      ∀ e, (ofDeclaration defaults task).mapError Error.configuration = .error e → ∃ cause, e = .configuration cause) ∧
    ∀ written nodes processes, TaskDeclaration.Declares written nodes processes →
      ((∃ fault, HostCall.tagTold nodes processes = .error fault) →
        ∀ task, TaskDeclaration.ofJson written = .ok task → ∃ cause, ofDeclaration defaults task = .error cause) ∧
      ∀ task plan, TaskDeclaration.ofJson written = .ok task → ofDeclaration defaults task = .ok plan →
        HostCall.tagTold nodes processes = .ok plan.taskType.tag := by
  refine ⟨fun task => ⟨routed defaults task, fun e he => ?_⟩, fun written nodes processes h =>
    ⟨fun ⟨fault, hfault⟩ task hread => ?_, fun task plan hread hplan => tagTold_of_plan h hread hplan⟩⟩
  · obtain ⟨cause, _, he⟩ := of_mapError_eq_error he
    exact ⟨cause, he⟩
  · cases hplan : ofDeclaration defaults task with
    | error cause => exact ⟨cause, rfl⟩
    | ok plan =>
      rw [tagTold_of_plan h hread hplan] at hfault
      cases hfault

/-- a written declaration of one node or up to four -/
def rangeWritten (processes : UInt32) : Json :=
  .record [("execution", .record [("name", .text "train-7")]),
    ("elastic", .record [("nproc_per_node", .ofCount processes), ("nnodes", .text "1:4")])]

def rangeTask (processes : UInt32) : TaskDeclaration where
  execution := { name := "train-7" }
  elastic := some { nodes := .range 1 4, processesPerNode := processes }

/-- the law at a range of nodes, with two processes on each and with none -/
theorem range_is_routed :
    (∃ s worker, TaskDeclaration.ofJson (rangeWritten 2) = .ok (rangeTask 2) ∧
      ofDeclaration { image := some "trainer:1.0" } (rangeTask 2) = .ok (.distributed s) ∧
      HostCall.tagTold (.text "1:4") 2 = .ok "pytorch" ∧
      s.roles.find? workerRole = some worker ∧ 2 ≤ worker.replicas) ∧
    ∃ cause fault, TaskDeclaration.ofJson (rangeWritten 0) = .ok (rangeTask 0) ∧
      HostCall.tagTold (.text "1:4") 0 = .error fault ∧
      ofDeclaration { image := some "trainer:1.0" } (rangeTask 0) = .error cause := by
  obtain ⟨hroutes, htypes⟩ := declarations_are_routed { image := some "trainer:1.0" }
  have hdeclares : ∀ processes, TaskDeclaration.Declares (rangeWritten processes) (.text "1:4") processes :=
    fun processes => ⟨_, List.mem_cons_of_mem _ List.mem_cons_self, List.mem_cons_of_mem _ List.mem_cons_self,
      List.mem_cons_self⟩
  have hread : TaskDeclaration.ofJson (rangeWritten 2) = .ok (rangeTask 2) := by decide +kernel
  have hreadNone : TaskDeclaration.ofJson (rangeWritten 0) = .ok (rangeTask 0) := by decide +kernel
  have hnone : HostCall.tagTold (.text "1:4") 0 = .error (.invalid (Error.headed .zeroProcesses)) := by decide +kernel
  constructor
  · obtain ⟨s, hs⟩ := eq_distributed_of_isSome (show
      ((ofDeclaration { image := some "trainer:1.0" } (rangeTask 2)).toOption.bind submission?).isSome = true by
        decide +kernel)
    obtain ⟨worker, hworker, hmany⟩ := (hroutes (rangeTask 2)).1.workers rfl s hs
    exact ⟨s, worker, hread, hs, (htypes _ _ _ (hdeclares 2)).2 _ _ hread hs, hworker, hmany⟩
  · obtain ⟨cause, hcause⟩ := (htypes _ _ _ (hdeclares 0)).1 ⟨_, hnone⟩ _ hreadNone
    exact ⟨cause, _, hreadNone, hnone, hcause⟩

end Plan

end TrainingJobs
