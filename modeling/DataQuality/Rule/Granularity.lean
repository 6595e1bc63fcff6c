import DataQuality.Json.Shape

/-!
The units in which the age of the newest record is measured.
-/

namespace DataQuality

inductive Granularity
  | microsecond
  | millisecond
  | second
  | minute
  | hour
  | day
  deriving DecidableEq

namespace Granularity

instance : Inhabited Granularity := ⟨.hour⟩

def all : List Granularity := [.microsecond, .millisecond, .second, .minute, .hour, .day]

def text : Granularity → String
  | .microsecond => "MICROSECOND"
  | .millisecond => "MILLISECOND"
  | .second => "SECOND"
  | .minute => "MINUTE"
  | .hour => "HOUR"
  | .day => "DAY"

def ofText? (s : String) : Option Granularity := all.find? (·.text == s)

def shape : Json.Shape := .choice (all.map text)

theorem ofText?_text (g : Granularity) : ofText? g.text = some g := by
  cases g <;> rfl

end Granularity

end DataQuality
