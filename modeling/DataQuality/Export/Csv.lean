import DataQuality.Export.Basic
import DataQuality.Text.Csv
import DataQuality.Text.Letter

/-!
Export as two tables of comma-separated values: one row for the run, and one for each result.
-/

namespace DataQuality.Export

open Json (Value)

/-- The columns that every table of a run begins with. -/
def runColumns : List String :=
  ["job_id", "suite_name", "status", "started_at", "ended_at", "duration_ms", "bytes_processed",
   "cache_hit", "validate_first", "validate_only", "error_count"]

def resultColumns : List String :=
  ["check_name", "status", "severity", "value", "threshold_lower", "threshold_upper", "message"]

/-- The text of a value in a table. -/
def cellText : Option Value → String
  | none | some .null => ""
  | some (.string s) => s
  | some v => v.compact

/-- A header, and a row for each record. -/
def table (columns : List String) (records : List (Dict Value)) : List (List String) :=
  columns :: records.map fun record => columns.map fun column => cellText (record.find? column)

/-- The columns of a run: the fixed ones, then all others of its record. -/
def columnsOf (record : Dict Value) : List String :=
  runColumns ++ record.keys.filter (!runColumns.contains ·)

def runTable (metadata : RunMetadata) : List (List String) :=
  let record := metadata.toRecord
  table (columnsOf record) [record]

def resultTable (results : List CheckResult) : List (List String) :=
  table resultColumns (results.map CheckResult.toRecord)

def runCsv (metadata : RunMetadata) : String := Text.Csv.document (runTable metadata)

def resultCsv (results : List CheckResult) : String := Text.Csv.document (resultTable results)

/-- The name of a suite as a part of a file name. -/
def fileStem (suite : String) : String :=
  suite.map fun c => if Text.isAsciiWord c || c == '-' || c == '.' then c else '_'

def csv (directory : String) : Exporter where
  name := "csv"
  deliver files metadata results :=
    let stem := fileStem metadata.suiteName
    let runPath := Storage.within directory (stem ++ "_run.csv")
    let resultPath := Storage.within directory (stem ++ "_results.csv")
    match writeFile "csv" runPath (runCsv metadata) files with
    | .error e => ⟨files, .error e, []⟩
    | .ok files =>
      match writeFile "csv" resultPath (resultCsv results) files with
      | .error e => ⟨files, .error e, []⟩
      | .ok files =>
        let places := [("export.run_file", runPath), ("export.results_file", resultPath)]
        ⟨files, .ok directory, [exported "csv" places results]⟩

end DataQuality.Export
