import DataQuality.Json.Fields
import DataQuality.Error
import DataQuality.Suite.Classify

/-!
Query engines as a run sees them: what an engine answers to a dry run of a statement, and what to its
execution.
-/

namespace DataQuality

open Json (Value Shape)

/-- What an engine tells about a job. -/
structure JobStats where
  jobId : Option String
  bytesProcessed : Option Nat
  cacheHit : Option Bool

namespace JobStats

def shape : Shape :=
  .record "JobStats"
    [("job_id", .required, .nullable .text),
     ("bytes_processed", .required, .nullable .natural),
     ("cache_hit", .required, .nullable .flag)]

def ofJson (v : Value) : JobStats where
  jobId := v.text? "job_id"
  bytesProcessed := (v.field "bytes_processed").nat?
  cacheHit := (v.field "cache_hit").flag?

def toJson (s : JobStats) : Value :=
  .object
    [("job_id", .ofString? s.jobId),
     ("bytes_processed", (s.bytesProcessed.map Value.nat).getD .null),
     ("cache_hit", (s.cacheHit.map Value.bool).getD .null)]

end JobStats

structure QueryOutput where
  rows : List Row
  stats : JobStats

structure Engine where
  name : String
  dryRun : (sql : String) → Except Error JobStats
  execute : (sql : String) → Except Error QueryOutput

/-- A call that a run makes of its engine. -/
inductive EngineCall
  | dryRun (sql : String)
  | execute (sql : String)
  deriving DecidableEq

end DataQuality
