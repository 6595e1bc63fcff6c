import DataQuality.Json.Shape

/-!
How serious the failure of a check is. The levels are ordered by `Severity.rank`.
-/

namespace DataQuality

inductive Severity
  | info
  | warn
  | error
  | critical
  deriving DecidableEq

namespace Severity

/-- A check that declares no severity is an error when it fails. -/
instance : Inhabited Severity := ⟨.error⟩

def all : List Severity := [.info, .warn, .error, .critical]

def text : Severity → String
  | .info => "INFO"
  | .warn => "WARN"
  | .error => "ERROR"
  | .critical => "CRITICAL"

def rank : Severity → Nat
  | .info => 0
  | .warn => 1
  | .error => 2
  | .critical => 3

instance : LE Severity := ⟨fun a b => a.rank ≤ b.rank⟩

instance (a b : Severity) : Decidable (a ≤ b) := inferInstanceAs (Decidable (a.rank ≤ b.rank))

def isAtLeast (a b : Severity) : Bool := b ≤ a

/-- The more serious of two levels. -/
def worse (a b : Severity) : Severity := if a ≤ b then b else a

def compare (a b : Severity) : Ordering := Ord.compare a.rank b.rank

def ofText? (s : String) : Option Severity := all.find? (·.text == s)

def shape : Json.Shape := .choice (all.map text)

theorem ofText?_text (s : Severity) : ofText? s.text = some s := by
  cases s <;> rfl

end Severity

end DataQuality
