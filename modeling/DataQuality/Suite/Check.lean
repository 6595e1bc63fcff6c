import DataQuality.Rule.Basic
import DataQuality.Severity
import DataQuality.Threshold

/-!
Checks: a rule bound to a column and to parameters, with the threshold that its value has to meet.
-/

namespace DataQuality

open Json (Value)

structure Check where
  name : String
  description : Option String
  rule : Option Rule
  column : Option String
  params : Dict Value
  severity : Severity
  threshold : Option Threshold
  sorted : params.Sorted

namespace Check

/-- A check of which only the name is known. -/
def named (name : String) : Check :=
  { name, description := none, rule := none, column := none, params := .empty, severity := default,
    threshold := none, sorted := Dict.sorted_empty }

/-- A check without a threshold accepts every value. -/
def effectiveThreshold (c : Check) : Threshold := c.threshold.getD .unbounded

end Check

end DataQuality
