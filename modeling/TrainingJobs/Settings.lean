/-
Settings of a submitter: how long it waits for the cluster, how often it looks at a job, and what jobs get by default.
Whatever the text of the settings leaves out has its default.
-/
import TrainingJobs.Elastic.Mode
import TrainingJobs.Time

namespace TrainingJobs

structure SubmitSettings where
  ns : String := "default"
  /-- how long an application to the cluster may take -/
  applyTimeout : Duration := .ofMilliseconds 30000
deriving DecidableEq, Repr, Inhabited

namespace SubmitSettings

def slots : List (Json.Slot SubmitSettings) :=
  [Json.slot "namespace" .defaulted Json.asText fun s v => { s with ns := v },
   Json.slot "apply_timeout" .defaulted Duration.ofJson fun s v => { s with applyTimeout := v }]

def ofJson : Json → Reading SubmitSettings := Json.readRecord slots {}

def toJson (s : SubmitSettings) : Json :=
  .record [("namespace", .text s.ns), ("apply_timeout", s.applyTimeout.toJson)]

end SubmitSettings

structure StatusSettings where
  /-- rest between two looks at a watched job -/
  pollInterval : Duration := .ofMilliseconds 10000
  /-- how long a status request may take -/
  requestTimeout : Duration := .ofMilliseconds 10000
  /-- reports a watch keeps for its reader; there is always room for one -/
  channelCapacity : UInt64 := 16
deriving DecidableEq, Repr, Inhabited

namespace StatusSettings

def slots : List (Json.Slot StatusSettings) :=
  [Json.slot "poll_interval" .defaulted Duration.ofJson fun s v => { s with pollInterval := v },
   Json.slot "request_timeout" .defaulted Duration.ofJson fun s v => { s with requestTimeout := v },
   Json.slot "channel_capacity" .defaulted Json.asWord fun s v => { s with channelCapacity := v }]

def ofJson : Json → Reading StatusSettings := Json.readRecord slots {}

def toJson (s : StatusSettings) : Json :=
  .record [("poll_interval", s.pollInterval.toJson), ("request_timeout", s.requestTimeout.toJson),
    ("channel_capacity", .ofWord s.channelCapacity)]

end StatusSettings

/-- what a job gets where its declaration leaves it open -/
structure JobDefaults where
  image : Option String := none
  backend : String := defaultBackend
  /-- false keeps every job from having shared memory -/
  sharedMemory : Bool := true
deriving DecidableEq, Repr, Inhabited

namespace JobDefaults

def slots : List (Json.Slot JobDefaults) :=
  [Json.slot "image" .defaulted (Json.optional Json.asText) fun d v => { d with image := v },
   Json.slot "rdzv_backend" .defaulted Json.asText fun d v => { d with backend := v },
   Json.slot "increase_shared_mem" .defaulted Json.asBool fun d v => { d with sharedMemory := v }]

def ofJson : Json → Reading JobDefaults := Json.readRecord slots {}

def toJson (d : JobDefaults) : Json :=
  .record [("image", .ofOption .text d.image), ("rdzv_backend", .text d.backend),
    ("increase_shared_mem", .bool d.sharedMemory)]

end JobDefaults

structure Settings where
  submit : SubmitSettings := {}
  status : StatusSettings := {}
  job : JobDefaults := {}
deriving DecidableEq, Repr, Inhabited

namespace Settings

def slots : List (Json.Slot Settings) :=
  [Json.slot "submit" .defaulted SubmitSettings.ofJson fun s v => { s with submit := v },
   Json.slot "status" .defaulted StatusSettings.ofJson fun s v => { s with status := v },
   Json.slot "job" .defaulted JobDefaults.ofJson fun s v => { s with job := v }]

def ofJson : Json → Reading Settings := Json.readRecord slots {}

def toJson (s : Settings) : Json :=
  .record [("submit", s.submit.toJson), ("status", s.status.toJson), ("job", s.job.toJson)]

/-- settings from their JSON text -/
def parse (text : String) : Reading Settings := Json.parsed ofJson text

/-- settings from the content of a file; none means that there is no such file -/
def ofFile (content : Option String) : Except Error Settings :=
  match content with
  | none => .error (.io "no such file")
  | some text => (parse text).mapError .serialization

end Settings

end TrainingJobs
