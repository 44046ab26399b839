/-
The jobs that plans come to. An elastic task for several nodes needs an image, of its template or of the defaults, and a
name; it becomes one role of workers, the template's in all but their number and the variables of the launch. A task of
master and workers needs an image to fall back on even where each of its roles brings its own.

- `elasticJob_valid_iff`: when the draft of an elastic job is built;
- `overwrites_replicaEnvironment`: each variable of a worker, by its name;
- `elastic_plans_are_exact`: which elastic tasks are planned, and as what;
- `ofMasterWorker_of_image`, `ofMasterWorker_of_no_image`: the image that stands behind master and workers;
- `planned_iff_image_behind_roles`: which tasks of master and workers are planned, and with which images;
- `own_images_are_not_enough`: roles with images of their own, and no plan.
-/
import TrainingJobs.Proofs.Elastic.Environment
import TrainingJobs.Proofs.Job.MasterWorker

namespace TrainingJobs

/-! ## The environment of the workers -/

/-- the environment of a worker beside that of its template: four variables tell the launch, whatever the template sets
them to; the number of threads is set to one where the template leaves it open and several processes share a node; no
other variable is touched -/
structure ElasticConfig.Overwrites (config : ElasticConfig) (template env : Dict String) : Prop where
  nodes : env.find? "PET_NNODES" =
    some (Text.decimal config.nodes.min.toNat ++ ":" ++ Text.decimal config.nodes.max.toNat)
  processes : env.find? "PET_NPROC_PER_NODE" = some (Text.decimal config.processesPerNode.toNat)
  restarts : env.find? "PET_MAX_RESTARTS" = some (Text.decimal config.maxRestarts.toNat)
  monitor : env.find? "PET_MONITOR_INTERVAL" = some (Text.decimal config.monitorInterval.toNat)
  threads : env.find? "OMP_NUM_THREADS" =
    (template.find? "OMP_NUM_THREADS").or (if 1 < config.processesPerNode then some "1" else none)
  others : ∀ name, name ∉ ["PET_NNODES", "PET_NPROC_PER_NODE", "PET_MAX_RESTARTS", "PET_MONITOR_INTERVAL",
    "OMP_NUM_THREADS"] → env.find? name = template.find? name

theorem ElasticConfig.overwrites_replicaEnvironment (config : ElasticConfig) (backend : String)
    (template : Dict String) :
    config.Overwrites template ((ElasticLaunch.ofConfig config backend).replicaEnvironment template) := by
  have hfind := (ElasticLaunch.ofConfig config backend).find?_replicaEnvironment template
  have hlaunch := (ElasticLaunch.ofConfig config backend).find?_launchVariables
  constructor
  case threads =>
    have hnone : (ElasticLaunch.ofConfig config backend).launchVariables.find? "OMP_NUM_THREADS" = none := hlaunch _
    rw [hfind, hnone, Option.none_or]
    simp only [ElasticLaunch.threadsVariable, and_true]
    rfl
  case others =>
    intro name hname
    simp only [List.mem_cons, List.not_mem_nil, or_false, not_or] at hname
    obtain ⟨hnodes, hprocesses, hrestarts, hmonitor, hthreads⟩ := hname
    have hnone : (ElasticLaunch.ofConfig config backend).launchVariables.find? name = none := by
      rw [hlaunch]
      simp [Dict.lookup_cons_eq_ite, ElasticLaunch.nodesVariable, ElasticLaunch.processesVariable,
        ElasticLaunch.restartsVariable, ElasticLaunch.monitorVariable, Ne.symm hnodes, Ne.symm hprocesses,
        Ne.symm hrestarts, hmonitor]
    rw [hfind, hnone, Option.none_or, if_neg fun h => hthreads h.2, Option.or_none]
  all_goals
    rw [hfind, hlaunch]
    rfl

namespace Plan

variable {defaults : JobDefaults} {config : ElasticConfig} {execution : Execution} {template : RoleSpec}
  {planned : ElasticLaunch}

/-! ## Elastic jobs -/

/-- of an elastic job for at least one node only a missing image and an execution without a name are at fault -/
theorem elasticJob_valid_iff (h : 0 < planned.maxNodes) :
    (elasticJob defaults execution planned config template).Valid ↔
      (template.image.isSome ∨ defaults.image.isSome) ∧ execution.Usable := by
  rw [elasticJob_eq]
  constructor
  · intro hvalid
    exact ⟨hvalid.images _ List.mem_cons_self, hvalid.usable⟩
  · rintro ⟨himage, husable⟩
    constructor
    case declared => exact List.cons_ne_nil _ _
    case labels =>
      intro e he
      obtain rfl := List.mem_singleton.1 he
      exact (Text.isLabel_iff workerRole).1 (by decide)
    case distinct => exact List.nodup_singleton _
    case masters =>
      intro e he hname
      obtain rfl := List.mem_singleton.1 he
      exact absurd hname (show workerRole ≠ masterRole by decide)
    case images =>
      intro e he
      obtain rfl := List.mem_singleton.1 he
      exact himage
    case required =>
      intro name hname
      obtain rfl := List.mem_singleton.1 hname
      exact ⟨_, List.mem_cons_self, rfl, h⟩
    case usable => exact husable

/-- the workers of an elastic job: as many as there may be nodes, and else as the template has them -/
structure Workers (defaults : JobDefaults) (config : ElasticConfig) (template : RoleSpec) (worker : Role) : Prop where
  replicas : worker.replicas = config.nodes.max
  command : worker.command = template.command
  resources : worker.resources = template.resources
  restartPolicy : worker.restartPolicy = template.restartPolicy.getD .never
  image : some worker.image = template.image.or defaults.image
  env : config.Overwrites template.env worker.env

/-- the job of an elastic task: one role of workers, and what configuration and defaults say of the whole -/
structure ElasticJob (defaults : JobDefaults) (config : ElasticConfig) (execution : Execution) (template : RoleSpec)
    (s : Submission) : Prop where
  execution : s.execution = execution
  roles : ∃ worker, s.roles.entries = [(workerRole, worker)] ∧ Workers defaults config template worker
  runPolicy : s.content.runPolicy = config.runPolicy.getD {}
  sharedMemory : s.content.sharedMemory = true ↔ config.sharedMemory = true ∧ defaults.sharedMemory = true
  processesPerNode : s.content.processesPerNode = some config.processesPerNode

theorem elasticJob_of_built {s : Submission} {backend : String}
    (h : (elasticJob defaults execution (.ofConfig config backend) config template).Built s) :
    ElasticJob defaults config execution template s := by
  rw [elasticJob_eq] at h
  have himage := ((JobDraft.settledRoles_eq_ok h.roles).1 _ List.mem_cons_self).image
  refine ⟨h.execution, ⟨_, ?_, rfl, rfl, rfl, rfl, (JobDraft.settled_resolved himage).image, ?_⟩, h.keeps.runPolicy,
    ?_, ?_⟩
  · rw [h.roles_eq]
    exact Dict.entries_ofList_of_sorted (List.pairwise_singleton _ _)
  · exact config.overwrites_replicaEnvironment backend template.env
  · rw [h.keeps.sharedMemory, Bool.and_eq_true]
  · rw [h.content]
    rfl

/-- a task for several nodes is planned as its elastic job is built -/
theorem ofElastic_of_many {name : String} (hsound : config.Sound) (hmany : 2 ≤ config.nodes.max) :
    ofElastic defaults ⟨name, config⟩ execution template =
      distributed <$> (elasticJob defaults execution (.ofConfig config defaults.backend) config template).build := by
  have hone : config.nodes.max ≠ 1 := fun h => absurd (h ▸ hmany) (by decide)
  have hmode : config.mode defaults.backend = .ok (.multiNode (.ofConfig config defaults.backend)) :=
    ElasticConfig.mode_eq_ok_iff.2 ⟨hsound, (if_neg hone).symm⟩
  rw [ofElastic, ElasticTask.mode, hmode]
  rfl

/-- **Elastic planning is exact.** Let a sound configuration allow two nodes or more. Its task is planned just when the
template or the defaults give an image and the name of the execution can be used, and then as a job of one role: as many
workers as there may be nodes, with the command, resources and restart policy of the template, its image or else that of
the defaults, and its environment but for the variables of the launch. The run policy is that of the configuration, and
there is shared memory if configuration and defaults both allow it. -/
theorem elastic_plans_are_exact (hsound : config.Sound) (hmany : 2 ≤ config.nodes.max) (name : String)
    (defaults : JobDefaults) (execution : Execution) (template : RoleSpec) :
    ((∃ plan, ofElastic defaults ⟨name, config⟩ execution template = .ok plan) ↔
      (template.image.isSome ∨ defaults.image.isSome) ∧ execution.Usable) ∧
    ∀ plan, ofElastic defaults ⟨name, config⟩ execution template = .ok plan →
      ∃ s, plan = .distributed s ∧ ElasticJob defaults config execution template s := by
  have hpositive : 0 < (ElasticLaunch.ofConfig config defaults.backend).maxNodes :=
    UInt32.lt_of_lt_of_le (by decide) hmany
  rw [ofElastic_of_many hsound hmany]
  constructor
  · rw [isOk_map_iff, JobDraft.build_isOk_iff, elasticJob_valid_iff hpositive]
  · intro plan hplan
    obtain ⟨s, hbuild, rfl⟩ := of_map_eq_ok hplan
    exact ⟨s, rfl, elasticJob_of_built ((JobDraft.build_eq_ok_iff _ s).1 hbuild)⟩

/-- the law at a template that sets variables of a launch itself -/
theorem launch_stands_over_clutter : ∃ s worker,
    ofElastic {} elasticTask { name := "train" } cluttered = .ok (.distributed s) ∧
      s.roles.entries = [(workerRole, worker)] ∧ worker.replicas = 4 ∧
      worker.env.find? "PET_NNODES" = some "2:4" ∧ worker.env.find? "PET_MAX_RESTARTS" = some "0" ∧
      worker.env.find? "PET_RDZV_ENDPOINT" = some "head:29400" ∧ worker.env.find? "OMP_NUM_THREADS" = some "6" := by
  have hsound : elasticTask.config.Sound := ⟨⟨by decide, by decide⟩, by decide⟩
  obtain ⟨hplanned, hjob⟩ :=
    elastic_plans_are_exact hsound (by decide) elasticTask.name {} { name := "train" } cluttered
  obtain ⟨plan, hplan⟩ := hplanned.2 ⟨.inl rfl, by decide⟩
  obtain ⟨s, rfl, hs⟩ := hjob plan hplan
  obtain ⟨worker, hroles, hworker⟩ := hs.roles
  refine ⟨s, worker, hplan, hroles, hworker.replicas, hworker.env.nodes.trans ?_, hworker.env.restarts.trans ?_,
    (hworker.env.others _ (by decide)).trans ?_, hworker.env.threads.trans ?_⟩ <;> decide +kernel

/-! ## Jobs of a master and workers -/

variable {masters : MasterWorkerConfig} {workers : UInt32}

/-- the image that a role finds first: its own, that of the template, that of the defaults -/
def firstImage (own : Option String) (template : RoleSpec) (defaults : JobDefaults) : Option String :=
  own.or (template.image.or defaults.image)

/-- with an image to fall back on, planning is a matter of the number of workers and the draft for it -/
theorem ofMasterWorker_of_image {image : String} (hworkers : masters.States workers)
    (himage : defaults.image.or template.image = some image) :
    ofMasterWorker defaults masters execution template = distributed <$>
      (masters.job workers execution template image (masters.sharedMemory && defaults.sharedMemory)).build := by
  rw [ofMasterWorker, himage]
  change (masters.draft execution template image >>= _) = _
  rw [MasterWorkerConfig.draft_eq_ok_iff.2 ⟨workers, hworkers, rfl⟩]
  rfl

theorem ofMasterWorker_of_no_image (h : template.image = none) (h' : defaults.image = none) :
    ofMasterWorker defaults masters execution template = .error .noDefaultImage := by
  rw [ofMasterWorker, h, h']
  rfl

/-- what a role falls back on is looked for where it finds its first image -/
theorem firstImage_eq {own : Option String} {image : String} (h : defaults.image.or template.image = some image) :
    firstImage own template defaults = some ((own.or template.image).getD image) := by
  rw [firstImage]
  cases own with
  | some mine => rfl
  | none =>
    cases himage : template.image with
    | some shared => rfl
    | none =>
      rw [himage, Option.or_none] at h
      exact h

/-- **Master and workers are planned just when an image stands behind them.** Let the number of workers be given once
and not be zero, and the name of the execution be usable. The task is planned just when the template or the defaults
give an image, and is refused for want of a default image otherwise, whatever images the roles set. Each role of the job
has the first image of its own, of the template and of the defaults. -/
theorem planned_iff_image_behind_roles (hworkers : masters.States workers) (hsome : 1 ≤ workers)
    (husable : execution.Usable) (template : RoleSpec) (defaults : JobDefaults) :
    ((∃ plan, ofMasterWorker defaults masters execution template = .ok plan) ↔
      template.image.isSome ∨ defaults.image.isSome) ∧
    (template.image = none → defaults.image = none →
      ofMasterWorker defaults masters execution template = .error .noDefaultImage) ∧
    ∀ plan, ofMasterWorker defaults masters execution template = .ok plan →
      ∃ s master worker, plan = .distributed s ∧ s.roles.entries = [(masterRole, master), (workerRole, worker)] ∧
        firstImage masters.master.image template defaults = some master.image ∧
        firstImage masters.worker.image template defaults = some worker.image := by
  cases himage : defaults.image.or template.image with
  | none =>
    obtain ⟨hdefaults, htemplate⟩ := Option.or_eq_none_iff.1 himage
    rw [ofMasterWorker_of_no_image htemplate hdefaults, htemplate, hdefaults]
    exact ⟨by simp, fun _ _ => rfl, fun plan hplan => by cases hplan⟩
  | some image =>
    have hplanning : ofMasterWorker defaults masters execution template = _ := ofMasterWorker_of_image hworkers himage
    refine ⟨?_, ofMasterWorker_of_no_image, fun plan hplan => ?_⟩
    · rw [hplanning, isOk_map_iff, JobDraft.build_isOk_iff, MasterWorkerConfig.job_valid_iff, or_comm,
        ← Bool.or_eq_true, ← Option.isSome_or, himage]
      exact iff_of_true ⟨hsome, husable⟩ rfl
    · rw [hplanning] at hplan
      obtain ⟨s, hbuild, rfl⟩ := of_map_eq_ok hplan
      obtain ⟨master, worker, hroles, hmaster, hworker⟩ :=
        (MasterWorkerConfig.comesTo_of_built ((JobDraft.build_eq_ok_iff _ s).1 hbuild)).roles
      refine ⟨s, master, worker, rfl, hroles, ?_, ?_⟩
      · rw [firstImage_eq himage, hmaster.image]
      · rw [firstImage_eq himage, hworker.image]
        rfl

/-- the master brings its own image -/
def leading : MasterWorkerConfig where
  master := { image := some "lead:2.0" }
  worker := { replicas := some 2 }

/-- the law at a master with its own image: the workers have the one behind them, and without it there is no plan -/
theorem workers_fall_back : (∃ s master worker,
    ofMasterWorker { image := some "trainer:1.0" } leading { name := "train" } {} = .ok (.distributed s) ∧
      s.roles.entries = [(masterRole, master), (workerRole, worker)] ∧
      master.image = "lead:2.0" ∧ worker.image = "trainer:1.0") ∧
    ofMasterWorker {} leading { name := "train" } {} = .error .noDefaultImage := by
  have hworkers : leading.States 2 := by decide
  have husable : ({ name := "train" } : Execution).Usable := by decide
  have hlaw := planned_iff_image_behind_roles hworkers (by decide) husable {}
  obtain ⟨hplanned, _, himages⟩ := hlaw { image := some "trainer:1.0" }
  obtain ⟨plan, hplan⟩ := hplanned.2 (.inr rfl)
  obtain ⟨s, master, worker, rfl, hroles, hmaster, hworker⟩ := himages plan hplan
  exact ⟨⟨s, master, worker, hplan, hroles, (Option.some.inj hmaster).symm, (Option.some.inj hworker).symm⟩,
    (hlaw {}).2.1 rfl rfl⟩

/-- each role brings its own image -/
def selfSufficient : MasterWorkerConfig where
  master := { image := some "lead:2.0" }
  worker := { image := some "crew:2.0", replicas := some 2 }

/-- both roles have an image, the number of workers and the name are right, and there is no plan -/
theorem own_images_are_not_enough :
    (selfSufficient.States 2 ∧ ({ name := "train" } : Execution).Usable) ∧
    (firstImage selfSufficient.master.image {} {} = some "lead:2.0" ∧
      firstImage selfSufficient.worker.image {} {} = some "crew:2.0") ∧
    ofMasterWorker {} selfSufficient { name := "train" } {} = .error .noDefaultImage := by
  decide +kernel

end Plan

end TrainingJobs
