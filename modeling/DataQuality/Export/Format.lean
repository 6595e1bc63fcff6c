import DataQuality.Error
import DataQuality.Json.Shape
import DataQuality.Text.Blank
import DataQuality.Text.Letter

/-!
The formats in which results are exported.
-/

namespace DataQuality

inductive ExportFormat
  | json
  | prometheus
  | csv
  | sqlite
  deriving DecidableEq, Inhabited

namespace ExportFormat

def all : List ExportFormat := [.json, .prometheus, .csv, .sqlite]

def text : ExportFormat → String
  | .json => "json"
  | .prometheus => "prometheus"
  | .csv => "csv"
  | .sqlite => "sqlite"

def ofText? (s : String) : Option ExportFormat := all.find? (·.text == s)

def shape : Json.Shape := .choice (all.map text)

/-- The format of a name, without regard to case and to white space around it. -/
def ofName (name : String) : Except Error ExportFormat :=
  match ofText? (Text.lower (Text.stripped name)) with
  | some format => pure format
  | none =>
    throw (.configuration
      ("unknown export format '" ++ name ++ "', expected one of: "
        ++ Text.join ", " (all.map text)))

theorem ofText?_text (f : ExportFormat) : ofText? f.text = some f := by
  cases f <;> rfl

end ExportFormat

end DataQuality
