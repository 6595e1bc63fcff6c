import DataQuality.Dict

/-!
JSON values. A number keeps whether it was written as a whole number: `1` and `1.0` are different
values.
-/

namespace DataQuality.Json

/-- A whole number lies between `-2 ^ 63` and `2 ^ 64 - 1`; a float is finite. -/
inductive Number
  | int (n : Int)
  | float (x : Float)
  deriving BEq

namespace Number

def leastInt : Int := -0x8000000000000000

def greatestInt : Int := 0xFFFFFFFFFFFFFFFF

/-- The greatest whole number that is kept with a sign. -/
def greatestSigned : Int := 0x7FFFFFFFFFFFFFFF

def toFloat : Number → Float
  | .int n => if n < 0 then -(Float.ofNat n.natAbs) else Float.ofNat n.natAbs
  | .float x => x

/-- Whether the number is a whole number of 64 bits with sign. -/
def isSigned : Number → Bool
  | .int n => n ≤ greatestSigned
  | .float _ => false

/-- Whether the number is a whole number that is not negative. -/
def isUnsigned : Number → Bool
  | .int n => 0 ≤ n
  | .float _ => false

def isZero : Number → Bool
  | .int n => n == 0
  | .float x => x == 0

end Number

inductive Value
  | null
  | bool (b : Bool)
  | number (n : Number)
  | string (s : String)
  | array (items : List Value)
  | object (fields : List (String × Value))
  deriving Inhabited

namespace Value

mutual

/-- Equality of values; floats are compared as numbers. -/
def same : Value → Value → Bool
  | .null, .null => true
  | .bool a, .bool b => a == b
  | .number a, .number b => a == b
  | .string a, .string b => a == b
  | .array a, .array b => sameItems a b
  | .object a, .object b => sameFields a b
  | _, _ => false

def sameItems : List Value → List Value → Bool
  | [], [] => true
  | a :: as, b :: bs => same a b && sameItems as bs
  | _, _ => false

def sameFields : List (String × Value) → List (String × Value) → Bool
  | [], [] => true
  | (k, a) :: as, (l, b) :: bs => k == l && same a b && sameFields as bs
  | _, _ => false

end

instance : BEq Value := ⟨same⟩

def int (n : Int) : Value := .number (.int n)

def nat (n : Nat) : Value := .number (.int n)

/-- A float as a value; what is not finite has no written form and becomes null. -/
def float (x : Float) : Value :=
  if x.isFinite then .number (.float x) else .null

def ofFloat? : Option Float → Value
  | some x => float x
  | none => .null

def ofString? : Option String → Value
  | some s => .string s
  | none => .null

def strings (items : List String) : Value := .array (items.map .string)

def isNull : Value → Bool
  | .null => true
  | _ => false

def isNumber : Value → Bool
  | .number _ => true
  | _ => false

def string? : Value → Option String
  | .string s => some s
  | _ => none

/-- An array or an object with at least one element. -/
def isNonemptyContainer : Value → Bool
  | .array items => !items.isEmpty
  | .object fields => !fields.isEmpty
  | _ => false

mutual

/-- Every object inside the value has its keys in increasing order, without repetition. -/
def WellFormed : Value → Prop
  | .array items => WellFormedItems items
  | .object fields => Dict.Sorted fields ∧ WellFormedFields fields
  | _ => True

def WellFormedItems : List Value → Prop
  | [] => True
  | v :: rest => WellFormed v ∧ WellFormedItems rest

def WellFormedFields : List (String × Value) → Prop
  | [] => True
  | (_, v) :: rest => WellFormed v ∧ WellFormedFields rest

end

end Value

end DataQuality.Json
