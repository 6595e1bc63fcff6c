import DataQuality.Flatten
import DataQuality.Status
import DataQuality.Json.Fields

/-!
What is known about one run of a suite. A run is finished once: the first `finish` fixes its status,
its end and its duration.
-/

namespace DataQuality

open Json (Value Shape)
open Time (Timestamp)

structure RunMetadata where
  suiteName : String
  jobId : Option String
  startedAt : Timestamp
  endedAt : Option Timestamp
  durationMs : Option Float
  bytesProcessed : Option Nat
  cacheHit : Option Bool
  validateFirst : Bool
  validateOnly : Bool
  status : RunStatus
  errors : List String
  extra : Dict Value

namespace RunMetadata

def start (suiteName : String) (validateFirst validateOnly : Bool) (now : Timestamp) :
    RunMetadata where
  suiteName := suiteName
  jobId := none
  startedAt := now
  endedAt := none
  durationMs := none
  bytesProcessed := none
  cacheHit := none
  validateFirst := validateFirst
  validateOnly := validateOnly
  status := .unknown
  errors := []
  extra := .empty

def recordError (m : RunMetadata) (message : String) : RunMetadata :=
  { m with errors := m.errors ++ [message] }

def isFinished (m : RunMetadata) : Bool := m.endedAt.isSome

def errorCount (m : RunMetadata) : Nat := m.errors.length

/-- The time between two instants in milliseconds: to the microsecond, or to the millisecond if the
microseconds are too many for 64 bits. -/
def elapsedMs (start stop : Timestamp) : Float :=
  let nanos := (stop.seconds - start.seconds) * 1000000000 + ((stop.nanos : Int) - start.nanos)
  let micros := nanos.tdiv 1000
  if -0x8000000000000000 ≤ micros && micros < 0x8000000000000000 then
    Float.ofInt micros / 1000
  else
    Float.ofInt (nanos.tdiv 1000000)

/-- Finishes a run that is not finished yet; whether it did so is the first part of the answer. -/
def finish (m : RunMetadata) (status : RunStatus) (now : Timestamp) : Bool × RunMetadata :=
  if m.isFinished then
    (false, m)
  else
    (true,
      { m with
        status := status
        endedAt := some now
        durationMs := some (elapsedMs m.startedAt now) })

/-- What can happen to the record of a run after its start. -/
inductive Step
  | recordError (message : String)
  | finish (status : RunStatus) (now : Timestamp)
  | putExtra (key : String) (value : Value)
  | setJobId (jobId : Option String)
  | setBytesProcessed (bytes : Option Nat)
  | setCacheHit (hit : Option Bool)

/-- What a step answers, if it is a `finish`, and the record after it. -/
def step (m : RunMetadata) : Step → Option Bool × RunMetadata
  | .recordError message => (none, m.recordError message)
  | .finish status now =>
    let (done, m) := m.finish status now
    (some done, m)
  | .putExtra key value => (none, { m with extra := m.extra.insert key value })
  | .setJobId jobId => (none, { m with jobId })
  | .setBytesProcessed bytesProcessed => (none, { m with bytesProcessed })
  | .setCacheHit cacheHit => (none, { m with cacheHit })

def shape : Shape :=
  .record "RunMetadata"
    [("suite_name", .required, .text),
     ("job_id", .required, .nullable .text),
     ("started_at", .required, .timestamp),
     ("ended_at", .required, .nullable .timestamp),
     ("duration_ms", .required, .nullable .real),
     ("bytes_processed", .required, .nullable .natural),
     ("cache_hit", .required, .nullable .flag),
     ("validate_first", .required, .flag),
     ("validate_only", .required, .flag),
     ("status", .required, RunStatus.shape),
     ("errors", .required, .sequence .text),
     ("extra", .required, .dictionary .any)]

def timestampOf? (v : Value) : Option Timestamp :=
  v.string?.bind fun s => (Timestamp.read s.toList).toOption

def ofJson (v : Value) : RunMetadata where
  suiteName := v.textAt "suite_name"
  jobId := v.text? "job_id"
  startedAt := (timestampOf? (v.field "started_at")).getD default
  endedAt := timestampOf? (v.field "ended_at")
  durationMs := (v.field "duration_ms").float?
  bytesProcessed := (v.field "bytes_processed").nat?
  cacheHit := (v.field "cache_hit").flag?
  validateFirst := v.flagAt "validate_first" false
  validateOnly := v.flagAt "validate_only" false
  status := ((v.text? "status").bind RunStatus.ofText?).getD default
  errors := v.textsAt "errors"
  extra := (v.field "extra").entries

/-- The fields of the document in their order. -/
def fields (m : RunMetadata) : List (String × Value) :=
  [("suite_name", .string m.suiteName),
   ("job_id", .ofString? m.jobId),
   ("started_at", .string m.startedAt.text),
   ("ended_at", .ofString? (m.endedAt.map Timestamp.text)),
   ("duration_ms", .ofFloat? m.durationMs),
   ("bytes_processed", (m.bytesProcessed.map Value.nat).getD .null),
   ("cache_hit", (m.cacheHit.map Value.bool).getD .null),
   ("validate_first", .bool m.validateFirst),
   ("validate_only", .bool m.validateOnly),
   ("status", .string m.status.text),
   ("errors", .strings m.errors),
   ("extra", .object m.extra)]

def toJson (m : RunMetadata) : Value := .object m.fields

/-- The flat record of a run: its flattened document and the number of its errors. -/
def toRecord (m : RunMetadata) : Dict Value :=
  (flatten (Dict.ofEntries m.fields)).insert "error_count" (.nat m.errorCount)

end RunMetadata

end DataQuality
