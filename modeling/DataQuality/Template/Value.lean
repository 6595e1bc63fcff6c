import DataQuality.Decimal.Read
import DataQuality.Json.Printer

/-!
How templates treat values: their text, their truth, and the steps into arrays and objects.
-/

namespace DataQuality.Template

open Json (Value Number)

/-- Numbers in rendered text are never written with an exponent. -/
def numberText : Number → String
  | .int n => toString n
  | .float x => Decimal.plain x

mutual

/-- The text of a value: nothing for null, a list in brackets for an array. -/
def textOf : Value → String
  | .null => ""
  | .bool b => if b then "true" else "false"
  | .number n => numberText n
  | .string s => s
  | .array items => "[" ++ Text.join ", " (textsOf items) ++ "]"
  | .object _ => "[object]"

def textsOf : List Value → List String
  | [] => []
  | v :: rest => textOf v :: textsOf rest

end

/-- Zero, not-a-number, null and everything empty are false. -/
def isTrue : Value → Bool
  | .null => false
  | .bool b => b
  | .number (.int n) => n != 0
  | .number (.float x) => x != 0 && !x.isNaN
  | .string s => !s.isEmpty
  | .array items => !items.isEmpty
  | .object fields => !fields.isEmpty

/-- A position in an array: digits without a leading zero. -/
def position? (key : String) : Option Nat :=
  let s := key.toList
  if s.isEmpty || !s.all Decimal.isDigit || (s.head? == some '0' && 1 < s.length) then
    none
  else
    some (Decimal.ofDigits s)

/-- The value under a key of an object, or at a position of an array. -/
def element? (v : Value) (key : String) : Option Value :=
  match v with
  | .object fields => Dict.find? key fields
  | .array items => (position? key).bind fun i => items[i]?
  | _ => none

def descend? (v : Value) (keys : List String) : Option Value := keys.foldlM element? v

/-- The keys of a path that is written with points; empty keys do not count. -/
def dottedKeys (path : String) : List String :=
  ((Text.pieces ['.'] path.toList).filter (!·.isEmpty)).map String.ofList

end DataQuality.Template
