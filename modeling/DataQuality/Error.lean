import DataQuality.Text.Search

/-!
The errors of the library. Errors in the definition of a suite or a rule reach the caller; those that
a query engine reports while a suite runs become part of the run's record.
-/

namespace DataQuality

inductive Error
  | missingParameter (rule : String) (params : List String)
  | missingRule (check : String)
  | ruleNotFound (name : String)
  | invalidSuite (suite message : String)
  | invalidRule (rule message : String)
  | template (rule message : String)
  | validationFailed (message : String) (jobId : Option String) (engineErrors : List String)
  | executionFailed (message : String) (jobId : Option String) (engineErrors : List String)
  | exportFailed (exporter message : String)
  | io (message : String)
  | serialization (message : String)
  | configuration (message : String)
  | internal (message : String)
  | security (message : String)
  deriving DecidableEq, Inhabited

namespace Error

def message : Error → String
  | .missingParameter rule params =>
    "Rule '" ++ rule ++ "' missing required parameter(s): " ++ Text.join ", " params
  | .missingRule check => "Check '" ++ check ++ "' has no associated rule template"
  | .ruleNotFound name => "Rule '" ++ name ++ "' not found in built-in or plugin registry"
  | .invalidSuite suite message => "Invalid suite '" ++ suite ++ "': " ++ message
  | .invalidRule rule message => "Invalid rule '" ++ rule ++ "': " ++ message
  | .template rule message => "Template error in rule '" ++ rule ++ "': " ++ message
  | .validationFailed message _ _ => "Validation failed: " ++ message
  | .executionFailed message _ _ => "Execution failed: " ++ message
  | .exportFailed exporter message => "Export via '" ++ exporter ++ "' failed: " ++ message
  | .io message => "IO error: " ++ message
  | .serialization message => "Serialization error: " ++ message
  | .configuration message => "Configuration error: " ++ message
  | .internal message => "Internal error: " ++ message
  | .security message => "Security error: " ++ message

/-- The job that an engine error belongs to. -/
def jobId : Error → Option String
  | .validationFailed _ jobId _ => jobId
  | .executionFailed _ jobId _ => jobId
  | _ => none

/-- What the engine itself reported. -/
def engineErrors : Error → List String
  | .validationFailed _ _ engineErrors => engineErrors
  | .executionFailed _ _ engineErrors => engineErrors
  | _ => []

/-- The message of the error, followed by one message for each engine error. -/
def messages (e : Error) : List String := e.message :: e.engineErrors

/-- The error as it is reported by a larger task. A chain of tasks stays one internal error. -/
def inContext (task : String) : Error → Error
  | .internal message => .internal (task ++ ": " ++ message)
  | e => .internal (task ++ ": " ++ e.message)

end Error

end DataQuality
