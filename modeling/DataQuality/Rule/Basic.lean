import DataQuality.Rule.Definition

/-!
Rules as they are bound to checks: a definition with default values for its parameters.
-/

namespace DataQuality

open Json (Value)

structure Rule where
  definition : RuleDefinition
  defaults : Dict Value
  sorted : defaults.Sorted

namespace Rule

def ofDefinition (d : RuleDefinition) : Rule := ⟨d, .empty, Dict.sorted_empty⟩

def name (r : Rule) : String := r.definition.name

/-- Adds default values; a later value for a parameter replaces an earlier one. -/
def withParams (r : Rule) (params : Dict Value) : Rule :=
  { r with
    defaults := r.defaults.overlay params
    sorted := Dict.sorted_insertAll r.sorted params }

def withParam (r : Rule) (key : String) (v : Value) : Rule :=
  { r with defaults := r.defaults.insert key v, sorted := Dict.sorted_insert r.sorted key v }

/-- The defaults, in place of which the given values count. -/
def merged (r : Rule) (extra : Dict Value) : Dict Value := r.defaults.overlay extra

/-- Whether a required parameter counts as given. Null, the empty text and the empty list do not. -/
def isGiven : Option Value → Bool
  | none | some .null => false
  | some (.string s) => !s.isEmpty
  | some (.array items) => !items.isEmpty
  | some _ => true

def missing (r : Rule) (params : Dict Value) : List String :=
  r.definition.required.filter fun name => !isGiven (params.find? name)

/-- The query of the rule for the given values. -/
def render (r : Rule) (extra : Dict Value) : Except Error String :=
  let params := r.merged extra
  match r.missing params with
  | [] => Template.render r.name r.definition.template params
  | missing => throw (.missingParameter r.name missing)

def describe (r : Rule) : String :=
  "<RuleTemplate name='" ++ r.name ++ "' required=[" ++ Text.join ", " r.definition.required ++ "]>"

end Rule

end DataQuality
