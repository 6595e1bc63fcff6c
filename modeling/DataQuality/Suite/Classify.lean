import DataQuality.CheckResult
import DataQuality.Log
import DataQuality.Suite.Basic
import DataQuality.Decimal.Read

/-!
Classification of the rows that an engine returns: each row names its check and carries a value, which
is compared with the threshold of the check.
-/

namespace DataQuality

open Json (Value)

/-- A row of a result, by column. -/
abbrev Row := Dict Value

namespace Row

/-- The columns that may hold the value, in the order in which they are tried. -/
def valueColumns : List String :=
  ["check_value", "value", "metric_value", "ratio", "count", "row_count"]

/-- The first of the value columns that is present and not null. -/
def candidate? (row : Row) : Option Value :=
  valueColumns.findSome? fun column =>
    match row.find? column with
    | some .null => none
    | found => found

/-- The finite number that a number or a text stands for. -/
def measure? (v : Value) : Option Float :=
  let x? :=
    match v with
    | .number n => some n.toFloat
    | .string s => Decimal.float? (Text.stripped s)
    | _ => none
  x?.bind fun x => if x.isFinite then some x else none

def value? (row : Row) : Option Float := row.candidate?.bind measure?

end Row

namespace Check

/-- The result of a check for a value, or for a row without a usable value. -/
def result (c : Check) (value : Option Float) : CheckResult :=
  let threshold := c.effectiveThreshold
  let result (status : CheckStatus) (message : String) : CheckResult :=
    ⟨c.name, status, c.severity, message, value, threshold.lower, threshold.upper⟩
  match value with
  | some x =>
    let within := threshold.contains x
    result (if within then .pass else .fail)
      (c.name ++ ": value " ++ Decimal.plain x ++ (if within then " within " else " outside ")
        ++ threshold.describe)
  | none => result .error "Invalid or missing numeric value in result row"

end Check

namespace Suite

/-- The result of a row, or the event that says why it has none. -/
def classifyRow (s : Suite) (row : Row) : Except Log.Event CheckResult :=
  match (row.find? "check_name").bind Value.string? with
  | none => .error ⟨.warn, "Dropping result row without a check name", [("suite.name", s.name)]⟩
  | some name =>
    match s.check? name with
    | none =>
      .error ⟨.warn, "Dropping result row for unknown check",
        [("suite.name", s.name), ("check.name", name)]⟩
    | some check => .ok (check.result row.value?)

/-- The event that tells the result of a row. -/
def resultEvent (r : CheckResult) : Log.Event :=
  ⟨.debug, "Classified result row",
    [("check.name", r.checkName), ("check.status", r.status.text),
     ("check.value", Log.optional Decimal.Layout.diagnostic.write r.value)]⟩

/-- The results of the rows that belong to a check of the suite. -/
def classify (s : Suite) (rows : List Row) : List CheckResult :=
  rows.filterMap fun row => (s.classifyRow row).toOption

/-- The events of a classification, one for each row that is told. -/
def classifyEvents (s : Suite) (settings : Log.Settings) (rows : List Row) : List Log.Event :=
  rows.filterMap fun row =>
    match s.classifyRow row with
    | .ok r => if settings.rows then some (resultEvent r) else none
    | .error event => some event

end Suite

end DataQuality
