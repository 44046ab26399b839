/-
One process or a multi-node job. A task runs as one process iff its configuration allows one node at most, however the
count is written. The mode is never stored: it is taken from the configuration that the task has at the moment.
-/
import TrainingJobs.Elastic.Launch

namespace TrainingJobs

/-- what a task is to the framework that schedules it -/
inductive TaskType where
  | singleProcess
  | distributed
deriving DecidableEq, Repr, Inhabited

/-- the tag by which the framework knows the type -/
def TaskType.tag : TaskType → String
  | singleProcess => "python-task"
  | distributed => "pytorch"

inductive Mode where
  | singleNode
  | multiNode (launch : ElasticLaunch)
deriving DecidableEq, Repr

namespace Mode

def taskType : Mode → TaskType
  | singleNode => .singleProcess
  | multiNode _ => .distributed

def isMultiNode : Mode → Bool
  | singleNode => false
  | multiNode _ => true

def launch? : Mode → Option ElasticLaunch
  | singleNode => none
  | multiNode l => some l

end Mode

/-- the rendezvous backend of a launch when nothing else is said -/
def defaultBackend : String := "c10d"

/-- the mode of a configuration; a launch meets through `backend` -/
def ElasticConfig.mode (config : ElasticConfig) (backend : String) : Except Misconfiguration Mode := do
  let nodes ← config.nodes.check
  if config.processesPerNode = 0 then throw .zeroProcesses
  pure (if nodes.max = 1 then .singleNode else .multiNode (.ofConfig config backend))

/-- a task with its elastic configuration, which an override replaces as a whole -/
structure ElasticTask where
  name : String
  config : ElasticConfig
deriving DecidableEq, Repr

namespace ElasticTask

def withConfig (task : ElasticTask) (config : ElasticConfig) : ElasticTask := { task with config }

def mode (task : ElasticTask) (backend : String) : Except Misconfiguration Mode := task.config.mode backend

def taskType (task : ElasticTask) (backend : String) : Except Misconfiguration TaskType :=
  (task.mode backend).map Mode.taskType

end ElasticTask

end TrainingJobs
