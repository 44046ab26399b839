/-
What can go wrong and how it is worded. A misconfiguration is found before anything reaches the cluster and retrying
does not help; a job that was refused stays refused; a status that could not be read may be readable later.

- `Error.not_retryable_of_fatal`: no error is both retryable and fatal.
-/
import TrainingJobs.Text.Numeral

namespace TrainingJobs

/-- why a configuration is invalid -/
inductive Misconfiguration where
  | zeroNodes
  | zeroMinNodes (min max : UInt32)
  | invertedNodes (min max : UInt32)
  | negativeNodes (text : String)
  | malformedNodes (text : String)
  | nodesOutOfRange (n : Int)
  | zeroProcesses
  | malformedVariable (name value : String)
  | zeroVariable (name : String)
  | unknownRestartPolicy (text : String)
  | emptyLabel (what : String)
  | longLabel (what value : String)
  | malformedLabel (what value : String)
  | unusableName (execution : String)
  | noRoles
  | roleTwice (name : String)
  | manyMasters (replicas : UInt32)
  | noImage (role : String)
  | undeclaredRole (name : String)
  | idleRole (name : String)
  | workersTwice
  | noWorkers
  | noDefaultImage
  | twoModes (task : String)
  /-- a cause known by its wording alone -/
  | stated (message : String)
deriving DecidableEq, Repr

def Misconfiguration.message : Misconfiguration → String
  | zeroNodes => "nnodes must be at least 1"
  | zeroMinNodes min max => s!"nnodes range {min}:{max} must start at 1 or more"
  | invertedNodes min max => s!"nnodes range {min}:{max} has min greater than max"
  | negativeNodes text => s!"nnodes '{text}' contains a negative count"
  | malformedNodes text => s!"nnodes '{text}' is not a node count or min:max range"
  | nodesOutOfRange n => s!"nnodes {n} is out of range"
  | zeroProcesses => "nproc_per_node must be at least 1"
  | malformedVariable name value => s!"{name}='{value}' is not a non-negative integer"
  | zeroVariable name => s!"{name} must be at least 1"
  | unknownRestartPolicy text => s!"unknown restart policy '{text}'"
  | emptyLabel what => s!"{what} cannot be empty"
  | longLabel what value => s!"{what} '{value}' exceeds 63 characters"
  | malformedLabel what value => s!"{what} '{value}' must consist of lower case alphanumerics and '-'"
  | unusableName execution => s!"task execution '{execution}' has no usable name"
  | noRoles => "job declares no roles"
  | roleTwice name => s!"role '{name}' declared twice"
  | manyMasters replicas => s!"master role must have 0 or 1 replicas, got {replicas}"
  | noImage role => s!"role '{role}' has no container image"
  | undeclaredRole name => s!"required role '{name}' is not declared"
  | idleRole name => s!"required role '{name}' declares zero replicas"
  | workersTwice => "cannot specify both num_workers and worker.replicas"
  | noWorkers => "one of num_workers or worker.replicas must be specified"
  | noDefaultImage => "no default image configured for PyTorch tasks"
  | twoModes task => s!"task '{task}' declares both an elastic and a PyTorch config"
  | stated message => message

/-- why the cluster refused a job -/
inductive Refusal where
  /-- the name belongs to a job with another content hash -/
  | takenByAnother (held submitted : String)
  /-- the name belongs to a job without a content hash -/
  | takenUnmarked
  | stated (reason : String)
deriving DecidableEq, Repr

def Refusal.message : Refusal → String
  | takenByAnother held submitted =>
    s!"job name is taken by a different job (content hash {held}, submitted {submitted})"
  | takenUnmarked => "job name is taken by a job without a content hash"
  | stated reason => reason

/-- why a value could not be read from its serialized form -/
inductive Unreadable where
  /-- not JSON, or not of the expected shape -/
  | malformed
  /-- a node count of the expected shape that breaks a rule of node counts -/
  | invalid (cause : Misconfiguration)
  | stated (message : String)
deriving DecidableEq, Repr

inductive Error where
  | configuration (cause : Misconfiguration)
  | submission (job : String) (cause : Refusal)
  | transientStatus (job : String) (message : String)
  | jobNotFound (job : String)
  | timeout (operation : String) (milliseconds : UInt64)
  | io (message : String)
  | serialization (cause : Unreadable)
  | internal (message : String)
deriving DecidableEq, Repr

namespace Error

/-- the wording of an invalid configuration, with its heading -/
def headed (cause : Misconfiguration) : String := "Invalid configuration: " ++ cause.message

/-- the wording of an error; that of malformed input is left open -/
def message : Error → String
  | configuration cause => headed cause
  | submission job cause => s!"Submission of {job} rejected: {cause.message}"
  | transientStatus job message => s!"Status unavailable for {job}: {message}"
  | jobNotFound job => s!"Job not found: {job}"
  | timeout operation milliseconds => s!"Operation timeout: {operation} after {milliseconds}ms"
  | io message => s!"I/O error: {message}"
  | serialization .malformed => "Serialization error: malformed value"
  | serialization (.invalid cause) => "Serialization error: " ++ headed cause
  | serialization (.stated message) => s!"Serialization error: {message}"
  | internal message => s!"Internal error: {message}"

def isRetryable : Error → Bool
  | transientStatus .. | jobNotFound .. | timeout .. => true
  | _ => false

def isFatal : Error → Bool
  | configuration .. | internal .. => true
  | _ => false

/-- how long to wait before trying again, in milliseconds -/
def retryDelay? : Error → Option UInt64
  | transientStatus .. | timeout .. => some 1000
  | jobNotFound .. => some 2000
  | _ => none

theorem not_retryable_of_fatal (e : Error) (h : e.isFatal = true) : e.isRetryable = false := by
  cases e <;> simp_all [isFatal, isRetryable]

theorem retryDelay?_isSome (e : Error) : e.retryDelay?.isSome = e.isRetryable := by cases e <;> rfl

end Error

end TrainingJobs
