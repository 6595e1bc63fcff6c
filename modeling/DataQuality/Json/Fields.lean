import DataQuality.Json.Conform

/-!
Taking apart a document that has been read by a shape. The shape has already fixed what each field
holds, so a field of another kind counts as absent here.
-/

namespace DataQuality.Json.Value

def field (key : String) : Value → Value
  | .object fields => (Dict.find? key fields).getD .null
  | _ => .null

def entries : Value → Dict Value
  | .object fields => fields
  | _ => []

def items : Value → List Value
  | .array items => items
  | _ => []

def flag? : Value → Option Bool
  | .bool b => some b
  | _ => none

def float? : Value → Option Float
  | .number n => some n.toFloat
  | _ => none

def nat? : Value → Option Nat
  | .number (.int n) => if 0 ≤ n then some n.toNat else none
  | _ => none

def textAt (key : String) (v : Value) : String := ((v.field key).string?).getD ""

def text? (key : String) (v : Value) : Option String := (v.field key).string?

def flagAt (key : String) (absent : Bool) (v : Value) : Bool := ((v.field key).flag?).getD absent

def textsAt (key : String) (v : Value) : List String := (v.field key).items.filterMap string?

/-- The fields that are bound to something, in order. -/
def objectOf (fields : List (String × Option Value)) : Value :=
  .object (fields.filterMap fun (k, v) => v.map fun v => (k, v))

end DataQuality.Json.Value
