import DataQuality.Json.Fields

/-!
Inclusive bounds for the value that a check measures.
-/

namespace DataQuality

open Json (Value Shape)

/-- A range that is open on the side of an absent bound. -/
structure Threshold where
  lower : Option Float
  upper : Option Float

namespace Threshold

def unbounded : Threshold := ⟨none, none⟩

def exact (value : Float) : Threshold := ⟨some value, some value⟩

def atLeast (lower : Float) : Threshold := ⟨some lower, none⟩

def atMost (upper : Float) : Threshold := ⟨none, some upper⟩

def between (lower upper : Float) : Threshold := ⟨some lower, some upper⟩

def isUnbounded (t : Threshold) : Bool := t.lower.isNone && t.upper.isNone

/-- Whether a value lies on the right side of each bound. A value that is not a number does not lie
outside of any bound. -/
def contains (t : Threshold) (value : Float) : Bool :=
  !(t.lower.any fun lower => value < lower) && !(t.upper.any fun upper => upper < value)

def describe (t : Threshold) : String :=
  match t.lower, t.upper with
  | none, none => "no threshold"
  | some lower, some upper =>
    if lower == upper then
      "threshold = " ++ Decimal.plain lower
    else
      range (some lower) (some upper)
  | lower, upper => range lower upper
where
  range (lower upper : Option Float) : String :=
    "range [" ++ (lower.map Decimal.plain).getD "-∞" ++ ", "
      ++ (upper.map Decimal.plain).getD "+∞" ++ "]"

/-- A threshold is read from its bounds, or from a single value that stands for both of them. -/
def shape : Shape :=
  .record "ThresholdSpec"
    [("value", .defaulted, .nullable .real),
     ("lower", .defaulted, .nullable .real),
     ("upper", .defaulted, .nullable .real)]

def ofJson (v : Value) : Threshold :=
  match (v.field "value").float? with
  | some value => exact value
  | none => ⟨(v.field "lower").float?, (v.field "upper").float?⟩

def toJson (t : Threshold) : Value :=
  .object [("lower", .ofFloat? t.lower), ("upper", .ofFloat? t.upper)]

end Threshold

end DataQuality
