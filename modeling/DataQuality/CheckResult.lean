import DataQuality.Error
import DataQuality.Severity
import DataQuality.Status
import DataQuality.Threshold

/-!
The result of one check, as a document and as a flat record of seven columns.
-/

namespace DataQuality

open Json (Value Shape)

structure CheckResult where
  checkName : String
  status : CheckStatus
  severity : Severity
  message : String
  value : Option Float
  lower : Option Float
  upper : Option Float

namespace CheckResult

def isPass (r : CheckResult) : Bool := r.status = .pass

def shape : Shape :=
  .record "CheckResult"
    [("check_name", .required, .text),
     ("status", .required, CheckStatus.shape),
     ("severity", .required, Severity.shape),
     ("message", .required, .text),
     ("value", .required, .nullable .real),
     ("threshold_lower", .required, .nullable .real),
     ("threshold_upper", .required, .nullable .real)]

def statusOf (v : Value) : CheckStatus := (v.string?.bind CheckStatus.ofText?).getD default

def severityOf (v : Value) : Severity := (v.string?.bind Severity.ofText?).getD default

def ofJson (v : Value) : CheckResult where
  checkName := v.textAt "check_name"
  status := statusOf (v.field "status")
  severity := severityOf (v.field "severity")
  message := v.textAt "message"
  value := (v.field "value").float?
  lower := (v.field "threshold_lower").float?
  upper := (v.field "threshold_upper").float?

def toJson (r : CheckResult) : Value :=
  .object
    [("check_name", .string r.checkName),
     ("status", .string r.status.text),
     ("severity", .string r.severity.text),
     ("message", .string r.message),
     ("value", .ofFloat? r.value),
     ("threshold_lower", .ofFloat? r.lower),
     ("threshold_upper", .ofFloat? r.upper)]

/-- The flat record of a result. -/
def toRecord (r : CheckResult) : Dict Value :=
  Dict.ofEntries
    [("check_name", .string r.checkName),
     ("status", .string r.status.text),
     ("severity", .string r.severity.text),
     ("value", .ofFloat? r.value),
     ("threshold_lower", .ofFloat? r.lower),
     ("threshold_upper", .ofFloat? r.upper),
     ("message", .string r.message)]

/-- What can be wrong with a flat record. -/
inductive RecordFault
  | absent (column : String)
  | malformed (cause : Json.DecodeError)
  | notNumber (column : String) (value : Value)

def RecordFault.message : RecordFault → String
  | .absent column => "flat record has no " ++ column
  | .malformed cause => cause.message
  | .notNumber column value =>
    "flat record field " ++ column ++ " is not a number: " ++ value.compact

/-- A column that holds one of the variants of a choice. -/
def choiceColumn (shape : Shape) (column : String) (record : Dict Value) :
    Except RecordFault Value :=
  match record.find? column with
  | none => throw (.absent column)
  | some v =>
    match Json.conform shape v with
    | .ok read => pure read
    | .error e => throw (.malformed e)

/-- A column that holds a number, or nothing. -/
def numberColumn (column : String) (record : Dict Value) : Except RecordFault (Option Float) :=
  match record.find? column with
  | none => pure none
  | some .null => pure none
  | some (.number n) => pure (some n.toFloat)
  | some v => throw (.notNumber column v)

/-- Reads a flat record. Columns of other names are ignored, and an absent message is empty. -/
def ofRecord (record : Dict Value) : Except RecordFault CheckResult := do
  let checkName ←
    match (record.find? "check_name").bind Value.string? with
    | some name => pure name
    | none => throw (.absent "check_name")
  let status ← choiceColumn CheckStatus.shape "status" record
  let severity ← choiceColumn Severity.shape "severity" record
  let value ← numberColumn "value" record
  let lower ← numberColumn "threshold_lower" record
  let upper ← numberColumn "threshold_upper" record
  pure
    { checkName
      status := statusOf status
      severity := severityOf severity
      message := ((record.find? "message").bind Value.string?).getD ""
      value, lower, upper }

end CheckResult

end DataQuality
