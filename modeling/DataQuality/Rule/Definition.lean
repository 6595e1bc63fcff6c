import DataQuality.Json.Fields
import DataQuality.Sql.Name
import DataQuality.Template.Render

/-!
Definitions of rules. A rule is a template of a query, with the names of the parameters that it cannot
do without.
-/

namespace DataQuality

open Json (Value Shape)

structure RuleDefinition where
  name : String
  description : String
  template : String
  required : List String

namespace RuleDefinition

/-- Rules are looked up without regard to case. -/
def key (d : RuleDefinition) : String := Text.lower d.name

/-- Checks the name, then that there is a template, then its form. -/
def validate (d : RuleDefinition) : Except Error Unit :=
  match Sql.checkName d.name with
  | .error e => throw (.invalidRule d.name e.message)
  | .ok _ =>
    if Text.hasContent d.template then
      Template.checkSyntax d.name d.template
    else
      throw (.invalidRule d.name "template is empty")

def shape : Shape :=
  .record "RuleDefinition"
    [("name", .required, .text),
     ("description", .defaulted, .text),
     ("template", .required, .text),
     ("required_params", .defaulted, .sequence .text)]

def ofJson (v : Value) : RuleDefinition where
  name := v.textAt "name"
  description := v.textAt "description"
  template := v.textAt "template"
  required := v.textsAt "required_params"

def toJson (d : RuleDefinition) : Value :=
  .object
    [("name", .string d.name),
     ("description", .string d.description),
     ("template", .string d.template),
     ("required_params", .strings d.required)]

end RuleDefinition

end DataQuality
