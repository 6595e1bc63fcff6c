import DataQuality.Decimal.Remainder
import DataQuality.Text.Search
import DataQuality.Template.Value

/-!
The tests of templates. A test takes the value of a variable, if the variable is defined, and further
values to test it against.
-/

namespace DataQuality.Template

open Json (Value Number)

/-- What can be wrong with the variable or the arguments of a test. -/
inductive TesterFault
  | tooManyArguments (tester : String) (given limit : Nat)
  | undefinedVariable (tester : String)
  | wrongVariable (tester wanted : String)
  | wrongParameter (tester wanted : String)
  | unsupported (message : String)

def TesterFault.message : TesterFault → String
  | .tooManyArguments tester given limit =>
    if limit = 0 then
      "Tester `" ++ tester ++ "` was called with some args but this test doesn't take args"
    else
      "Tester `" ++ tester ++ "` was called with " ++ toString given ++ " args, the max number is "
        ++ toString limit
  | .undefinedVariable tester => "Tester `" ++ tester ++ "` was called on an undefined variable"
  | .wrongVariable tester wanted =>
    "Tester `" ++ tester ++ "` was called on a variable that isn't a " ++ wanted
  | .wrongParameter tester wanted =>
    "Tester `" ++ tester ++ "` was called with a parameter that isn't a " ++ wanted
  | .unsupported message => message

abbrev TesterResult := Except TesterFault Bool

namespace Tester

/-- A test of a defined variable that takes at most `limit` arguments. -/
def onDefined (tester : String) (limit : Nat) (test : Value → List Value → TesterResult)
    (found? : Option Value) (args : List Value) : TesterResult :=
  if limit < args.length then
    throw (.tooManyArguments tester args.length limit)
  else
    match found? with
    | some v => test v args
    | none => throw (.undefinedVariable tester)

def ofKind (tester : String) (isKind : Value → Bool) : Option Value → List Value → TesterResult :=
  onDefined tester 0 fun v _ => pure (isKind v)

/-- Whether a variable is defined as the test says. -/
def definedness (tester : String) (wanted : Bool) (found? : Option Value) (args : List Value) :
    TesterResult :=
  if args.isEmpty then
    pure (found?.isSome == wanted)
  else
    throw (.tooManyArguments tester args.length 0)

def parity (tester : String) (odd : Bool) : Option Value → List Value → TesterResult :=
  onDefined tester 0 fun v _ =>
    match v with
    | .number n => pure ((Decimal.remainder n.toFloat 2 != 0) == odd)
    | _ => throw (.wrongVariable "odd" "number")

def divisible : Option Value → List Value → TesterResult :=
  onDefined "divisibleby" 1 fun v args =>
    match v with
    | .number n =>
      match args.head? with
      | some (.number divisor) => pure (Decimal.remainder n.toFloat divisor.toFloat == 0)
      | _ => throw (.wrongParameter "divisibleby" "number")
    | _ => throw (.wrongVariable "divisibleby" "number")

/-- The text that a test looks for. -/
def needle (tester : String) (args : List Value) : Except TesterFault (List Char) :=
  match args.head? with
  | some (.string s) => pure s.toList
  | _ => throw (.wrongParameter tester "string")

def edge (tester : String) (holds : List Char → List Char → Bool) :
    Option Value → List Value → TesterResult :=
  onDefined tester 1 fun v args =>
    match v with
    | .string s => do pure (holds (← needle tester args) s.toList)
    | _ => throw (.wrongVariable tester "string")

def containing : Option Value → List Value → TesterResult :=
  onDefined "containing" 1 fun v args =>
    match v with
    | .string s => do pure (Text.occursIn (← needle "containing" args) s.toList)
    | .array items => pure ((args.head?.map items.contains).getD false)
    | .object fields => do
      pure (Dict.hasKey (String.ofList (← needle "containing" args)) fields)
    | _ => throw (.unsupported "Tester `containing` can only be used on string, array or map")

/-- The test of a name. Left out is `matching`, which needs regular expressions: a template that uses
it counts as one that uses an unknown test. -/
def find? (name : String) : Option (Option Value → List Value → TesterResult) :=
  match name with
  | "defined" => some (definedness "defined" true)
  | "undefined" => some (definedness "undefined" false)
  | "string" => some (ofKind "string" fun v => v.string?.isSome)
  | "number" => some (ofKind "number" Value.isNumber)
  | "iterable" =>
    some (ofKind "iterable" fun v =>
      match v with
      | .array _ | .object _ => true
      | _ => false)
  | "object" =>
    some (ofKind "object" fun v =>
      match v with
      | .object _ => true
      | _ => false)
  | "odd" => some (parity "odd" true)
  | "even" => some (parity "even" false)
  | "divisibleby" => some divisible
  | "starting_with" => some (edge "starting_with" fun part s => part.isPrefixOf s)
  | "ending_with" => some (edge "ending_with" fun part s => part.isSuffixOf s)
  | "containing" => some containing
  | _ => none

end Tester

end DataQuality.Template
