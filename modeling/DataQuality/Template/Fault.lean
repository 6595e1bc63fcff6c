import DataQuality.Template.Filter
import DataQuality.Template.Outline
import DataQuality.Template.Tester

/-!
What can go wrong while a template is rendered. A fault inside a filter, a test or a function keeps
what caused it; `Fault.missing?` finds the variable that is to blame, if one is.
-/

namespace DataQuality.Template

open Json (Value Number)

/-- What takes named arguments, or arguments in parentheses. -/
inductive CallKind
  | filter
  | test
  | function
  deriving DecidableEq

def CallKind.text : CallKind → String
  | .filter => "Filter"
  | .test => "Test"
  | .function => "Function"

inductive Fault
  | notFound (path head : String)
  | inIndex (path : String) (cause : Fault)
  | unusableIndex (path index : String)
  | unknown (kind : CallKind) (name : String)
  | inCall (kind : CallKind) (name : String) (cause : Option Fault)
  | filter (fault : FilterFault)
  | tester (fault : TesterFault)
  | noDefault
  | notConcatenable (origin name : String)
  | notNumber (path : String)
  | noNumber
  | notNumeric (kind text : String)
  | outOfBounds (lhs sign rhs kind : String)
  | zeroModulus (lhs rhs : Expr)
  | incomparable
  | notCondition (function : String)
  | notNumericCall (function : String)
  | notText (item : Value) (container : String)
  | noMembers
  | noKeys (container : String)
  | needsKey (container : String)
  | notIterable (container : String)
  | noContainer (term : Term)
  | unsupported (message : String)

namespace Fault

/-- The message of a fault without its cause. -/
def headline : Fault → String
  | .notFound path _ =>
    "Variable `" ++ path ++ "` not found in context while rendering '__tera_one_off'"
  | .inIndex path cause => "Variable " ++ path ++ " can not be evaluated because: " ++ cause.headline
  | .unusableIndex path index =>
    "Only variables evaluating to String or Number can be used as index (`" ++ index ++ "` of `"
      ++ path ++ "`)"
  | .unknown kind name => kind.text ++ " '" ++ name ++ "' not found"
  | .inCall kind name _ => kind.text ++ " call '" ++ name ++ "' failed"
  | .filter fault => fault.message
  | .tester fault => fault.message
  | .noDefault => "The `default` filter requires a `value` argument."
  | .notConcatenable origin name =>
    "Tried to concat a value that is not a string or a number from " ++ origin ++ " " ++ name
  | .notNumber path => "Variable `" ++ path ++ "` was used in a math operation but is not a number"
  | .noNumber => "Tried to do math with an expression not resulting in a number"
  | .notNumeric kind text => "Tried to do math with a " ++ kind ++ ": " ++ text
  | .outOfBounds lhs sign rhs kind =>
    lhs ++ " " ++ sign ++ " " ++ rhs ++ " results in an out of bounds " ++ kind
  | .zeroModulus lhs rhs => "Tried to do a modulo by zero: " ++ lhs.outline ++ "/" ++ rhs.outline
  | .incomparable => "Comparison to NaN"
  | .notCondition function =>
    "Function `" ++ function ++ "` was used in a logic operation but is not returning a bool"
  | .notNumericCall function =>
    "Function `" ++ function ++ "` was used in a math operation but is not returning a number"
  | .notText item container =>
    "Tried to check if " ++ outlineValue item ++ " is in a " ++ container
      ++ ", but it isn't a string"
  | .noMembers => "The `in` operator only supports strings, arrays and objects."
  | .noKeys container =>
    "Tried to iterate using key value on variable `" ++ container
      ++ "`, but it isn't an object/map"
  | .needsKey container =>
    "Tried to iterate using key value on variable `" ++ container ++ "`, but it is missing a key"
  | .notIterable container =>
    "Tried to iterate on a container (`" ++ container ++ "`) that has a unsupported type"
  | .noContainer term =>
    "Forloop containers have to be an ident or a function call (tried to iterate on '"
      ++ term.outline ++ "')"
  | .unsupported message => message

/-- The message of a fault, followed by the messages of its causes. -/
def message : Fault → String
  | .inCall kind name (some cause) =>
    (Fault.inCall kind name none).headline ++ ": " ++ cause.message
  | fault => fault.headline

/-- The fault without its causes. -/
def alone : Fault → Fault
  | .inCall kind name _ => .inCall kind name none
  | fault => fault

/-- The variable that was not found. -/
def missing? : Fault → Option String
  | .notFound _ head => some head
  | .inIndex _ cause => cause.missing?
  | .inCall _ _ (some cause) => cause.missing?
  | _ => none

end Fault

abbrev Outcome (α : Type) := Except Fault α

end DataQuality.Template
