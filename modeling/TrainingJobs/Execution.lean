/-
Task executions and the names of their jobs. A job is named `prefix-hash`: the prefix is the slug of execution, node and
attempt cut to fit a label, the hash the first 8 digits of the fingerprint of the whole identity, so that equal prefixes
of different projects or domains stay apart.
-/
import TrainingJobs.Json.Typed
import TrainingJobs.Text.Digest
import TrainingJobs.Text.Label

namespace TrainingJobs

/-- refuses a value that is not a DNS-1123 label; `what` says what the value names -/
def checkLabel (value what : String) : Except Misconfiguration Unit :=
  if value.isEmpty then .error (.emptyLabel what)
  else if value.utf8ByteSize > Text.maxLabelLength then .error (.longLabel what value)
  else if !Text.hasLabelForm value.toList then .error (.malformedLabel what value)
  else .ok ()

/-- the key of a role in a manifest: its name with the first letter in upper case -/
def roleKey (role : String) : String :=
  match role.toList with
  | [] => ""
  | c :: rest => String.ofList (c.toUpper :: rest)

/-- the task execution that a job is submitted for -/
structure Execution where
  project : String := ""
  domain : String := ""
  name : String := ""
  node : String := ""
  attempt : UInt32 := 0
deriving DecidableEq, Repr, Inhabited

namespace Execution

/-- the whole identity in one text -/
def text (e : Execution) : String :=
  e.project ++ "/" ++ e.domain ++ "/" ++ e.name ++ "/" ++ e.node ++ "/" ++ Text.decimal e.attempt.toNat

/-- how many digits of the fingerprint end a job name -/
def hashLength : Nat := 8

/-- how much room a job name leaves for its prefix -/
def prefixLength : Nat := Text.maxLabelLength - hashLength - 1

def namePrefix (e : Execution) : List Char :=
  Text.dropDashesEnd
    ((Text.slug (e.name ++ "-" ++ e.node ++ "-" ++ Text.decimal e.attempt.toNat)).take prefixLength)

def nameHash (e : Execution) : List Char := (Text.fingerprint e.text).toList.take hashLength

/-- the name of the job of this execution; it needs a letter or digit in the execution's name -/
def jobName (e : Execution) : Except Misconfiguration String :=
  if (Text.slug e.name).isEmpty then .error (.unusableName e.text)
  else do
    let name := String.ofList (e.namePrefix ++ '-' :: e.nameHash)
    checkLabel name "job name"
    pure name

def slots : List (Json.Slot Execution) :=
  [Json.slot "project" .defaulted Json.asText fun e v => { e with project := v },
   Json.slot "domain" .defaulted Json.asText fun e v => { e with domain := v },
   Json.slot "name" .defaulted Json.asText fun e v => { e with name := v },
   Json.slot "node_id" .defaulted Json.asText fun e v => { e with node := v },
   Json.slot "retry_attempt" .defaulted Json.asCount fun e v => { e with attempt := v }]

def ofJson : Json → Reading Execution := Json.readRecord slots {}

def toJson (e : Execution) : Json :=
  .record [("project", .text e.project), ("domain", .text e.domain), ("name", .text e.name), ("node_id", .text e.node),
    ("retry_attempt", .ofCount e.attempt)]

end Execution

end TrainingJobs
