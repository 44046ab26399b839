/-
Drafts of jobs, built up call by call, and what makes a submission of one. A draft is refused for its first fault:
roles in the order of their declaration, then the required names in their own order, then the name of the job. Counts
of a launch pass into the elastic policy as 32-bit words, read there as signed numbers.
-/
import TrainingJobs.Elastic.Launch
import TrainingJobs.Job.Submission

namespace TrainingJobs

structure JobDraft where
  execution : Execution
  /-- in the order of their declaration -/
  roles : List (String × RoleSpec) := []
  /-- names of roles that must be declared with a replica -/
  required : Dict Unit := ∅
  runPolicy : RunPolicy := {}
  launch : Option ElasticLaunch := none
  sharedMemory : Bool := false
  defaultImage : Option String := none
deriving DecidableEq, Repr

/-- one call on a draft -/
inductive DraftCall where
  | role (name : String) (spec : RoleSpec)
  | requireRole (name : String)
  | runPolicy (policy : RunPolicy)
  | elastic (launch : ElasticLaunch)
  | sharedMemory (enabled : Bool)
  | defaultImage (image : String)
deriving DecidableEq, Repr

namespace JobDraft

def apply (d : JobDraft) : DraftCall → JobDraft
  | .role name spec => { d with roles := d.roles ++ [(name, spec)] }
  | .requireRole name => { d with required := d.required.insert name () }
  | .runPolicy policy => { d with runPolicy := policy }
  | .elastic launch => { d with launch := some launch }
  | .sharedMemory enabled => { d with sharedMemory := enabled }
  | .defaultImage image => { d with defaultImage := some image }

/-- the draft after all the calls -/
def run (execution : Execution) (calls : List DraftCall) : JobDraft := calls.foldl apply { execution }

/-- the role with its open choices settled; without a restart policy its replicas are never restarted -/
def settle (d : JobDraft) (name : String) (spec : RoleSpec) : Except Misconfiguration Role :=
  if isMasterRole name && spec.replicas > 1 then .error (.manyMasters spec.replicas)
  else match spec.image.or d.defaultImage with
    | none => .error (.noImage name)
    | some image => .ok {
        replicas := spec.replicas
        restartPolicy := spec.restartPolicy.getD .never
        resources := spec.resources
        image
        command := spec.command
        env := spec.env }

/-- one more role -/
def addRole (d : JobDraft) (roles : Dict Role) (declared : String × RoleSpec) : Except Misconfiguration (Dict Role) := do
  checkLabel declared.1 "role name"
  if roles.contains declared.1 then throw (.roleTwice declared.1)
  let role ← d.settle declared.1 declared.2
  pure (roles.insert declared.1 role)

def settledRoles (d : JobDraft) : Except Misconfiguration (Dict Role) := d.roles.foldlM d.addRole ∅

/-- a required role is there and has a replica -/
def checkRequired (roles : Dict Role) (name : String) : Except Misconfiguration Unit :=
  match roles.find? name with
  | none => .error (.undeclaredRole name)
  | some role => if role.replicas = 0 then .error (.idleRole name) else .ok ()

def elasticPolicy (launch : ElasticLaunch) : ElasticPolicy where
  backend := launch.backend
  minReplicas := launch.minNodes.toInt32
  maxReplicas := launch.maxNodes.toInt32
  processesPerNode := launch.processesPerNode.toInt32
  maxRestarts := launch.maxRestarts.toInt32

def content (d : JobDraft) (roles : Dict Role) : Content where
  roles := roles
  runPolicy := d.runPolicy
  elasticPolicy := d.launch.map elasticPolicy
  processesPerNode := d.launch.map ElasticLaunch.processesPerNode
  sharedMemory := d.sharedMemory

/-- the submission that the draft describes -/
def build (d : JobDraft) : Except Misconfiguration Submission := do
  if d.roles.isEmpty then throw .noRoles
  let roles ← d.settledRoles
  d.required.names.forM (checkRequired roles)
  let id ← d.execution.jobName
  let content := d.content roles
  pure { id, execution := d.execution, content, contentHash := content.hash }

end JobDraft

/-- the draft of a multi-node elastic job: no master, one worker role with as many replicas as the launch has nodes at
most. The template gives all but the number of replicas; the launch's variables stand over the template's, and the
thread variable only where it leaves it open. -/
def elasticDraft (execution : Execution) (launch : ElasticLaunch) (config : ElasticConfig) (template : RoleSpec) :
    JobDraft :=
  let env := template.env.overlay launch.launchVariables
  let worker := { template with replicas := launch.maxNodes, env := env.overlay (launch.threadVariables env.find?) }
  .run execution [.role workerRole worker, .requireRole workerRole, .runPolicy (config.runPolicy.getD {}),
    .sharedMemory config.sharedMemory, .elastic launch]

end TrainingJobs
