import DataQuality.Export.Basic
import DataQuality.Sql.Name

/-!
Export as metrics in a text format that monitoring systems read. A family of samples has labels of its
own; labels of the user are added to each sample, unless the family has a label of that name.
-/

namespace DataQuality.Export

/-- Samples by the values of the family's own labels, in the order of the label names. -/
structure Family where
  name : String
  help : String
  labels : List String
  samples : List (List String × Float)

namespace Family

/-- Sets the sample for some label values, in place of an earlier one. -/
def set (f : Family) (values : List String) (x : Float) : Family :=
  if f.samples.any (·.1 == values) then
    { f with samples := f.samples.map fun s => if s.1 == values then (values, x) else s }
  else
    { f with samples := f.samples ++ [(values, x)] }

end Family

def escapeChar : Char → List Char
  | '\\' => ['\\', '\\']
  | '\n' => ['\\', 'n']
  | '"' => ['\\', '"']
  | c => [c]

def escapeLabel (s : String) : String := .ofList (s.toList.flatMap escapeChar)

def labelText (label value : String) : String := label ++ "=\"" ++ escapeLabel value ++ "\""

/-- The user's labels that a family does not have itself. -/
def extraLabels (user : Dict String) (own : List String) : Dict String :=
  user.filter fun (label, _) => !own.contains label

/-- All labels of a sample by name. -/
def sampleLabels (user : Dict String) (own : List String) (values : List String) : Dict String :=
  (extraLabels user own).overlay (Dict.ofEntries (own.zip values))

/-- The order of samples: by the values of their labels, the labels by name. -/
def labelsLe : List String → List String → Bool
  | [], _ => true
  | _ :: _, [] => false
  | a :: as, b :: bs => a < b || (a == b && labelsLe as bs)

def sampleText (name : String) (labels : Dict String) (x : Float) : String :=
  name ++ "\x7b" ++ Text.join "," (labels.map fun (label, value) => labelText label value) ++ "\x7d "
    ++ Decimal.plain x ++ "\n"

/-- A family with its description; one without samples is left out. -/
def familyText (user : Dict String) (f : Family) : String :=
  if f.samples.isEmpty then
    ""
  else
    let samples := f.samples.map fun (values, x) => (sampleLabels user f.labels values, x)
    let sorted := samples.mergeSort fun a b => labelsLe (a.1.map (·.2)) (b.1.map (·.2))
    "# HELP " ++ f.name ++ " " ++ f.help ++ "\n# TYPE " ++ f.name ++ " gauge\n"
      ++ Text.join "" (sorted.map fun (labels, x) => sampleText f.name labels x)

def checkValues (metadata : RunMetadata) (results : List CheckResult) : Family :=
  results.foldl
    (fun f r =>
      f.set [metadata.suiteName, r.checkName, r.status.text, r.severity.text]
        (r.value.getD (0 / 0)))
    ⟨"sentinel_check_value", "Measured value of a data-quality check",
      ["suite", "check", "status", "severity"], []⟩

def runDuration (metadata : RunMetadata) : Family :=
  ⟨"sentinel_run_duration_ms", "Duration of the data-quality run in milliseconds",
    ["suite", "status"],
    [([metadata.suiteName, metadata.status.text], metadata.durationMs.getD 0)]⟩

def runErrors (metadata : RunMetadata) : Family :=
  ⟨"sentinel_run_error_count", "Errors recorded during the data-quality run", ["suite"],
    [([metadata.suiteName], Float.ofNat metadata.errorCount)]⟩

/-- The families of a run by name. -/
def families (metadata : RunMetadata) (results : List CheckResult) : List Family :=
  [checkValues metadata results, runDuration metadata, runErrors metadata]

/-- The first label of the user that is added to a family without having the form of a label. -/
def badLabel? (user : Dict String) (families : List Family) : Option String :=
  families.findSome? fun f =>
    (extraLabels user f.labels).findSome? fun (label, _) =>
      if Sql.hasNameForm label.toList then none else some label

def prometheusText (user : Dict String) (metadata : RunMetadata) (results : List CheckResult) :
    Except Error String :=
  let families := families metadata results
  match badLabel? user families with
  | some label =>
    throw (.exportFailed "prometheus" ("Error: '" ++ label ++ "' is not a valid label name"))
  | none => pure (Text.join "" (families.map (familyText user)))

def prometheus (path : String) (user : Dict String) : Exporter where
  name := "prometheus"
  deliver files metadata results :=
    deliverText "prometheus" path (prometheusText user metadata results) files results

end DataQuality.Export
