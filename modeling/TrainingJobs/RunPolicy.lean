/-
What happens to a job as a whole: how long it may run, how often it is retried, and what is left of it afterwards.
-/
import TrainingJobs.Json.Typed

namespace TrainingJobs

/-- which pods are deleted once the job has finished -/
inductive CleanPodPolicy where
  | none
  | all
  | running
deriving DecidableEq, Repr, Inhabited

namespace CleanPodPolicy

def text : CleanPodPolicy → String
  | none => "None"
  | all => "All"
  | running => "Running"

def ofJson (v : Json) : Reading CleanPodPolicy := v.asOneOf [("None", none), ("All", all), ("Running", running)]

def toJson (p : CleanPodPolicy) : Json := .text p.text

end CleanPodPolicy

structure RunPolicy where
  cleanPodPolicy : Option CleanPodPolicy := none
  ttlSecondsAfterFinished : Option UInt32 := none
  activeDeadlineSeconds : Option UInt64 := none
  /-- retries before the job counts as failed -/
  backoffLimit : Option UInt32 := none
deriving DecidableEq, Repr, Inhabited

namespace RunPolicy

/-- after so many retries some of the budget is left; without a limit there is no budget at all -/
def budgetRemains (p : RunPolicy) (consumed : UInt32) : Bool := p.backoffLimit.any fun limit => consumed < limit

def slots : List (Json.Slot RunPolicy) :=
  [Json.slot "clean_pod_policy" .defaulted (Json.optional CleanPodPolicy.ofJson)
     fun p v => { p with cleanPodPolicy := v },
   Json.slot "ttl_seconds_after_finished" .defaulted (Json.optional Json.asCount)
     fun p v => { p with ttlSecondsAfterFinished := v },
   Json.slot "active_deadline_seconds" .defaulted (Json.optional Json.asWord)
     fun p v => { p with activeDeadlineSeconds := v },
   Json.slot "backoff_limit" .defaulted (Json.optional Json.asCount) fun p v => { p with backoffLimit := v }]

def ofJson : Json → Reading RunPolicy := Json.readRecord slots {}

def toJson (p : RunPolicy) : Json :=
  .record [("clean_pod_policy", .ofOption CleanPodPolicy.toJson p.cleanPodPolicy),
    ("ttl_seconds_after_finished", .ofOption .ofCount p.ttlSecondsAfterFinished),
    ("active_deadline_seconds", .ofOption .ofWord p.activeDeadlineSeconds),
    ("backoff_limit", .ofOption .ofCount p.backoffLimit)]

end RunPolicy

end TrainingJobs
