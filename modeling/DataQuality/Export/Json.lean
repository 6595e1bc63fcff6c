import DataQuality.Export.Basic

/-!
Export as one JSON document, which holds the flat records of the run and of its results.
-/

namespace DataQuality.Export

open Json (Value)

def jsonText (metadata : RunMetadata) (results : List CheckResult) : String :=
  (Value.object
    [("metadata", .object metadata.toRecord),
     ("results", .array (results.map fun r => .object r.toRecord))]).pretty

def json (path : String) : Exporter where
  name := "json"
  deliver files metadata results :=
    deliverText "json" path (.ok (jsonText metadata results)) files results

end DataQuality.Export
