/-
Jobs of a master and workers, from configuration and template to the submission. The number of workers is the one thing
of the configuration that can be wrong. Each role has its own settings, then those of the template; the roles do not
share their settings with each other, and requests and limits are settled apart.

- `workerReplicas_eq_ok_iff`: the number of workers, if it is given in just one of its two places;
- `draft_eq`: the draft of the job for this number;
- `job_valid_iff`: when such a draft is built;
- `comesTo_of_built`: what it comes to, role by role;
- `master_worker_jobs_are_exact`: all of it, for every configuration and template.
-/
import TrainingJobs.Job.MasterWorker
import TrainingJobs.Proofs.Job.Acceptance

namespace TrainingJobs

/-- what a worker may set for itself as a master may -/
def WorkerConfig.own (c : WorkerConfig) : MasterConfig where
  image := c.image
  requests := c.requests
  limits := c.limits
  restartPolicy := c.restartPolicy

namespace MasterWorkerConfig

variable {c : MasterWorkerConfig} {workers : UInt32} {execution : Execution} {template : RoleSpec} {image : String}
  {sharing : Bool} {s : Submission}

/-! ## The number of workers -/

/-- the number of workers is given, and in one place only -/
def States (c : MasterWorkerConfig) (workers : UInt32) : Prop :=
  (c.numWorkers = some workers ∧ c.worker.replicas = none) ∨
    (c.numWorkers = none ∧ c.worker.replicas = some workers)

instance (c : MasterWorkerConfig) (workers : UInt32) : Decidable (c.States workers) :=
  inferInstanceAs (Decidable (_ ∨ _))

theorem workerReplicas_eq_ok_iff : c.workerReplicas = .ok workers ↔ c.States workers := by
  rw [workerReplicas, States]
  cases c.numWorkers <;> cases c.worker.replicas <;> simp

/-! ## The draft -/

/-- the template under the settings of a role -/
def roleSpec (own : MasterConfig) (template : RoleSpec) (replicas : UInt32) : RoleSpec :=
  specialize template replicas own.image own.requests own.limits own.restartPolicy

/-- the draft of a job of so many workers -/
def job (c : MasterWorkerConfig) (workers : UInt32) (execution : Execution) (template : RoleSpec) (image : String)
    (sharing : Bool) : JobDraft where
  execution := execution
  roles := [(masterRole, roleSpec c.master template 1), (workerRole, roleSpec c.worker.own template workers)]
  required := .insert (.insert ∅ masterRole ()) workerRole ()
  runPolicy := c.runPolicy.getD {}
  sharedMemory := sharing
  defaultImage := some image

theorem draft_eq (c : MasterWorkerConfig) (execution : Execution) (template : RoleSpec) (image : String) :
    c.draft execution template image =
      c.workerReplicas.map fun workers => c.job workers execution template image c.sharedMemory := by
  rw [draft]
  cases c.workerReplicas <;> rfl

theorem draft_eq_ok_iff {d : JobDraft} : c.draft execution template image = .ok d ↔
    ∃ workers, c.States workers ∧ c.job workers execution template image c.sharedMemory = d := by
  simp only [← workerReplicas_eq_ok_iff]
  rw [draft_eq]
  cases c.workerReplicas <;> simp [Except.map]

theorem mem_roles_job {e : String × RoleSpec} : e ∈ (c.job workers execution template image sharing).roles ↔
    e = (masterRole, roleSpec c.master template 1) ∨ e = (workerRole, roleSpec c.worker.own template workers) := by
  simp [job]

theorem mem_required_job {name : String} :
    name ∈ (c.job workers execution template image sharing).required.names ↔ name = masterRole ∨ name = workerRole := by
  have hnone : name ∉ (∅ : Dict Unit).names := List.not_mem_nil
  simp [job, Dict.mem_names_insert, hnone, or_comm]

/-- of the draft itself only a job without workers and an execution without a name are at fault -/
theorem job_valid_iff :
    (c.job workers execution template image sharing).Valid ↔ 1 ≤ workers ∧ execution.Usable := by
  have hnames : masterRole ≠ workerRole := by decide
  constructor
  · intro h
    refine ⟨?_, h.usable⟩
    obtain ⟨e, he, hname, hbusy⟩ := h.required workerRole (mem_required_job.2 (.inr rfl))
    rcases mem_roles_job.1 he with rfl | rfl
    · exact absurd hname hnames
    · exact hbusy
  · rintro ⟨hworkers, husable⟩
    constructor
    case declared => simp [job]
    case labels =>
      intro e he
      rcases mem_roles_job.1 he with rfl | rfl
      · exact (Text.isLabel_iff masterRole).1 (by decide)
      · exact (Text.isLabel_iff workerRole).1 (by decide)
    case distinct => simp [job, hnames]
    case masters =>
      intro e he hname
      rcases mem_roles_job.1 he with rfl | rfl
      · exact UInt32.le_refl 1
      · exact absurd hname.symm hnames
    case images =>
      intro e he
      exact .inr rfl
    case required =>
      intro name hname
      rcases mem_required_job.1 hname with rfl | rfl
      · exact ⟨_, mem_roles_job.2 (.inl rfl), rfl, show (0 : UInt32) < 1 by decide⟩
      · exact ⟨_, mem_roles_job.2 (.inr rfl), rfl, hworkers⟩
    case usable => exact husable

/-! ## The submission -/

/-- a role as the job has it: its own settings, then the template's, then the image to fall back on and no restarts -/
structure Inherits (own : MasterConfig) (template : RoleSpec) (image : String) (replicas : UInt32) (role : Role) :
    Prop where
  replicas : role.replicas = replicas
  command : role.command = template.command
  env : role.env = template.env
  requests : role.resources.requests = own.requests.getD template.resources.requests
  limits : role.resources.limits = own.limits.getD template.resources.limits
  restartPolicy : role.restartPolicy = (own.restartPolicy.or template.restartPolicy).getD .never
  image : role.image = (own.image.or template.image).getD image

/-- the job of a configuration, for so many workers -/
structure ComesTo (c : MasterWorkerConfig) (workers : UInt32) (template : RoleSpec) (image : String) (s : Submission) :
    Prop where
  roles : ∃ master worker, s.roles.entries = [(masterRole, master), (workerRole, worker)] ∧
    Inherits c.master template image 1 master ∧ Inherits c.worker.own template image workers worker
  runPolicy : s.content.runPolicy = c.runPolicy.getD {}
  elasticPolicy : s.content.elasticPolicy = none
  processesPerNode : s.content.processesPerNode = none

theorem inherits_resolved {d : JobDraft} (hd : d.defaultImage = some image) (own : MasterConfig) (template : RoleSpec)
    (replicas : UInt32) :
    Inherits own template image replicas (d.resolved (roleSpec own template replicas)) := by
  refine ⟨rfl, rfl, rfl, rfl, rfl, rfl, ?_⟩
  change ((own.image.or template.image).or d.defaultImage).getD "" = _
  rw [hd, Option.or_some, Option.getD_some]

theorem comesTo_of_built (h : (c.job workers execution template image sharing).Built s) :
    c.ComesTo workers template image s := by
  have hd : (c.job workers execution template image sharing).defaultImage = some image := rfl
  refine ⟨⟨_, _, ?_, inherits_resolved hd c.master template 1, inherits_resolved hd c.worker.own template workers⟩,
    ?_, ?_, ?_⟩
  · have hsorted : masterRole < workerRole := by decide
    rw [h.roles_eq]
    exact Dict.entries_ofList_of_sorted (List.pairwise_pair.2 hsorted)
  all_goals
    rw [h.content]
    rfl

/-- **A configuration of master and workers is taken as it stands.** With an image to fall back on it becomes a job just
when the number of workers is given once and is not zero, and the name of the execution can be used. The job has one
master and so many workers; each role has the command and the environment of the template, and of image, requests,
limits and restart policy its own where it sets it and else the template's, whatever the other role sets. It is not
elastic; run policy and shared memory are those of the configuration. The replicas of the template do not count. -/
theorem master_worker_jobs_are_exact (c : MasterWorkerConfig) (execution : Execution) (template : RoleSpec)
    (image : String) :
    ((∃ s, c.draft execution template image >>= JobDraft.build = .ok s) ↔
      (∃ workers, c.States workers ∧ 1 ≤ workers) ∧ execution.Usable) ∧
    (∀ s, c.draft execution template image >>= JobDraft.build = .ok s →
      ∃ workers, c.States workers ∧ c.ComesTo workers template image s ∧ s.execution = execution ∧
        s.content.sharedMemory = c.sharedMemory) ∧
    ∀ replicas, c.draft execution { template with replicas } image = c.draft execution template image := by
  refine ⟨⟨?_, ?_⟩, ?_, fun replicas => rfl⟩
  · rintro ⟨s, hs⟩
    obtain ⟨d, hd, hbuild⟩ := of_bind_eq_ok hs
    obtain ⟨workers, hstates, rfl⟩ := draft_eq_ok_iff.1 hd
    obtain ⟨hsome, husable⟩ := job_valid_iff.1 ((JobDraft.build_isOk_iff _).1 ⟨s, hbuild⟩)
    exact ⟨⟨workers, hstates, hsome⟩, husable⟩
  · rintro ⟨⟨workers, hstates, hsome⟩, husable⟩
    rw [draft_eq_ok_iff.2 ⟨workers, hstates, rfl⟩]
    exact (JobDraft.build_isOk_iff _).2 (job_valid_iff.2 ⟨hsome, husable⟩)
  · intro s hs
    obtain ⟨d, hd, hbuild⟩ := of_bind_eq_ok hs
    obtain ⟨workers, hstates, rfl⟩ := draft_eq_ok_iff.1 hd
    have hbuilt := (JobDraft.build_eq_ok_iff _ s).1 hbuild
    exact ⟨workers, hstates, comesTo_of_built hbuilt, hbuilt.execution, hbuilt.keeps.sharedMemory⟩

/-- each role sets what the other one leaves open -/
def halves : MasterWorkerConfig where
  master := { image := some "lead:2.0", requests := some { cpu := some "1" } }
  worker := { limits := some { gpu := some "4" }, restartPolicy := some .onFailure }
  numWorkers := some 3

def shared : RoleSpec where
  replicas := 7
  resources := { requests := { cpu := some "8" }, limits := { memory := some "64Gi" } }
  command := ["python", "train.py"]

/-- the law at roles of which each sets what the other one leaves open: nothing passes between them -/
theorem halves_stay_apart : ∃ s master worker,
    halves.draft { name := "train" } shared "trainer:1.0" >>= JobDraft.build = .ok s ∧
      s.roles.entries = [(masterRole, master), (workerRole, worker)] ∧
      (master.replicas = 1 ∧ master.image = "lead:2.0" ∧ master.restartPolicy = .never ∧
        master.resources.requests = { cpu := some "1" } ∧ master.resources.limits = { memory := some "64Gi" }) ∧
      worker.replicas = 3 ∧ worker.image = "trainer:1.0" ∧ worker.restartPolicy = .onFailure ∧
        worker.resources.requests = { cpu := some "8" } ∧ worker.resources.limits = { gpu := some "4" } := by
  obtain ⟨haccepted, hjob, _⟩ := master_worker_jobs_are_exact halves { name := "train" } shared "trainer:1.0"
  obtain ⟨s, hs⟩ := haccepted.2 ⟨⟨3, by decide, by decide⟩, by decide⟩
  obtain ⟨workers, hstates, hcomes, _⟩ := hjob s hs
  obtain ⟨master, worker, hroles, hmaster, hworker⟩ := hcomes.roles
  obtain rfl : workers = 3 := by simpa [States, halves, eq_comm] using hstates
  exact ⟨s, master, worker, hs, hroles,
    ⟨hmaster.replicas, hmaster.image, hmaster.restartPolicy, hmaster.requests, hmaster.limits⟩,
    hworker.replicas, hworker.image, hworker.restartPolicy, hworker.requests, hworker.limits⟩

end MasterWorkerConfig

end TrainingJobs
