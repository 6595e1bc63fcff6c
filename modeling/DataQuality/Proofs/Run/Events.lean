import DataQuality.Proofs.Export.Provided
import DataQuality.Proofs.Suite.Verdict

/-!
What log settings do to a run. They leave out events of the kinds that are switched off, and nothing
else in the run depends on them. Main statement: `Runner.run_onlyFilters`.
-/

namespace DataQuality

open Outcome (Related)

namespace Suite

variable (s : Suite) (settings : Log.Settings)

end Suite

/-- The results that a run reports. -/
def Run.results (run : Run) : List CheckResult :=
  match run.outcome with
  | .ok report => report.results
  | .error _ => []

namespace Runner

/-- The same runner with all optional events. -/
def complete (r : Runner) : Runner := { r with settings := r.settings.complete }

section Parts

variable (r : Runner)

end Parts

section Run

variable {r : Runner} {s : Suite}

section

variable {sql : String} (h : (s.compile r.quote).outcome = .ok sql) (engine : Engine)
  (clock : Clock) (files : Storage.Tree) (o : RunOptions)

include h

end

end Run

end Runner
end DataQuality
