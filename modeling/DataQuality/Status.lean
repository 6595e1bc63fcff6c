import DataQuality.Json.Shape

/-!
The outcome of a check, and the outcome of a run.
-/

namespace DataQuality

/-- The outcome of one check: its value lies within the threshold or outside of it, or the row that
the engine returned has no usable value. -/
inductive CheckStatus
  | pass
  | fail
  | error
  deriving DecidableEq, Inhabited

namespace CheckStatus

def all : List CheckStatus := [.pass, .fail, .error]

def text : CheckStatus → String
  | .pass => "PASS"
  | .fail => "FAIL"
  | .error => "ERROR"

def isFailure : CheckStatus → Bool
  | .pass => false
  | .fail | .error => true

def ofText? (s : String) : Option CheckStatus := all.find? (·.text == s)

def shape : Json.Shape := .choice (all.map text)

theorem ofText?_text (s : CheckStatus) : ofText? s.text = some s := by
  cases s <;> rfl

end CheckStatus

/-- The outcome of a run. Validation is a dry run of the statement. -/
inductive RunStatus
  | unknown
  | success
  | failed
  | validationSuccess
  | validationFailed
  deriving DecidableEq, Inhabited

namespace RunStatus

def all : List RunStatus := [.unknown, .success, .failed, .validationSuccess, .validationFailed]

def text : RunStatus → String
  | .unknown => "UNKNOWN"
  | .success => "SUCCESS"
  | .failed => "FAILED"
  | .validationSuccess => "VALIDATION_SUCCESS"
  | .validationFailed => "VALIDATION_FAILED"

def isFailure : RunStatus → Bool
  | .failed | .validationFailed => true
  | _ => false

def ofText? (s : String) : Option RunStatus := all.find? (·.text == s)

def shape : Json.Shape := .choice (all.map text)

theorem ofText?_text (s : RunStatus) : ofText? s.text = some s := by
  cases s <;> rfl

end RunStatus

end DataQuality
