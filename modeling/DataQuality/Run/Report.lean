import DataQuality.CheckResult
import DataQuality.RunMetadata

/-!
What a run reports to its caller.
-/

namespace DataQuality

structure RunReport where
  sql : String
  metadata : RunMetadata
  results : List CheckResult
  exportError : Option String

namespace RunReport

/-- Whether the run came to its end and every result is a pass. -/
def isSuccess (r : RunReport) : Bool :=
  (r.metadata.status = .success || r.metadata.status = .validationSuccess)
    && r.results.all CheckResult.isPass

def failedResults (r : RunReport) : List CheckResult :=
  r.results.filter fun result => result.status.isFailure

/-- The most serious level among the failed results. -/
def highestFailedSeverity (r : RunReport) : Option Severity :=
  (r.failedResults.map CheckResult.severity).foldl
    (fun highest s => some ((highest.map fun h => h.worse s).getD s)) none

end RunReport

end DataQuality
