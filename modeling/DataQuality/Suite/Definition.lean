import DataQuality.Json.Document
import DataQuality.Rule.Registry
import DataQuality.Suite.Basic

/-!
Suites as they are written in documents. A check names its rule, which is looked up in a registry; the
argument of a rule that has to be prepared for SQL is taken out of the parameters and prepared.
-/

namespace DataQuality

open Json (Value Shape)

structure CheckDefinition where
  name : String
  description : Option String
  rule : String
  ruleParams : Dict Value
  column : Option String
  params : Dict Value
  severity : Severity
  threshold : Option Threshold

namespace CheckDefinition

def shape : Shape :=
  .record "CheckDefinition"
    [("name", .required, .text),
     ("description", .defaulted, .nullable .text),
     ("rule", .required, .text),
     ("rule_params", .defaulted, .dictionary .any),
     ("column_name", .defaulted, .nullable .text),
     ("params", .defaulted, .dictionary .any),
     ("severity", .defaulted, Severity.shape),
     ("threshold", .defaulted, .nullable Threshold.shape)]

def ofJson (v : Value) : CheckDefinition where
  name := v.textAt "name"
  description := v.text? "description"
  rule := v.textAt "rule"
  ruleParams := (v.field "rule_params").entries
  column := v.text? "column_name"
  params := (v.field "params").entries
  severity := ((v.text? "severity").bind Severity.ofText?).getD default
  threshold := if (v.field "threshold").isNull then none else some (.ofJson (v.field "threshold"))

def toJson (c : CheckDefinition) : Value :=
  .objectOf
    [("name", some (.string c.name)),
     ("description", c.description.map .string),
     ("rule", some (.string c.rule)),
     ("rule_params", some (.object c.ruleParams)),
     ("column_name", c.column.map .string),
     ("params", some (.object c.params)),
     ("severity", some (.string c.severity.text)),
     ("threshold", c.threshold.map Threshold.toJson)]

/-- An argument that is taken out of both sets of parameters; the check's own comes first. -/
def argument? (c : CheckDefinition) (key : String) : Option Value :=
  c.params.find? key <|> c.ruleParams.find? key

def without (c : CheckDefinition) (key : String) : CheckDefinition :=
  { c with params := c.params.erase key, ruleParams := c.ruleParams.erase key }

/-- The unit for the age of the newest record; hours, if none is given. -/
def granularity : Option Value → Except Error Granularity
  | none | some .null => pure default
  | some (.string unit) =>
    match Granularity.ofText? (Text.upper (Text.stripped unit)) with
    | some g => pure g
    | none => throw (.configuration ("unknown freshness granularity '" ++ unit ++ "'"))
  | some other => throw (.configuration ("granularity must be a string, got " ++ other.compact))

/-- The argument that has to be prepared, for the rules that have one. -/
def preparedKey? (rule : String) : Option String :=
  match rule with
  | "regex_match" => some "regex_pattern"
  | "accepted_values" => some "accepted_values"
  | "freshness" => some "granularity"
  | _ => none

/-- The rule of a name with the given argument, if the rule prepares one. -/
def ruleWith (reader : Sql.PatternReader) (r : Registry) (name : String)
    (argument : Option Value) : Except Error Rule :=
  match Registry.keyOf name, argument with
  | "regex_match", some (.string pattern) => Rule.regexMatch reader pattern
  | "regex_match", some other =>
    throw (.configuration ("regex_pattern must be a string, got " ++ other.compact))
  | "accepted_values", some (.array values) => pure (Rule.acceptedValues values)
  | "accepted_values", some other =>
    throw (.configuration ("accepted_values must be a list, got " ++ other.compact))
  | "freshness", unit => do pure (Rule.freshness (← granularity unit))
  | _, _ => r.resolve name

/-- The check with its rule. The entries of a document can stand in any order; those of a check are
kept in the order of their keys. -/
def withRule (c : CheckDefinition) (rule : Rule) : Check where
  name := c.name
  description := c.description
  rule := some (rule.withParams c.ruleParams)
  column := c.column
  params := .ofEntries c.params
  severity := c.severity
  threshold := c.threshold
  sorted := Dict.sorted_ofEntries c.params

def toCheck (reader : Sql.PatternReader) (r : Registry) (c : CheckDefinition) :
    Except Error Check := do
  let key? := preparedKey? (Registry.keyOf c.rule)
  let rule ← ruleWith reader r c.rule (key?.bind c.argument?)
  pure (((key?.map c.without).getD c).withRule rule)

end CheckDefinition

structure SuiteDefinition where
  name : String
  domain : Option String
  owner : Option String
  source : DataSource
  params : Dict Value
  checks : List CheckDefinition
  tags : Dict String

namespace SuiteDefinition

def shape : Shape :=
  .record "SuiteDefinition"
    [("name", .required, .text),
     ("domain", .defaulted, .nullable .text),
     ("owner", .defaulted, .nullable .text),
     ("data_source", .required, DataSource.shape),
     ("params", .defaulted, .dictionary .any),
     ("checks", .defaulted, .sequence CheckDefinition.shape),
     ("tags", .defaulted, .dictionary .text)]

def ofJson (v : Value) : SuiteDefinition where
  name := v.textAt "name"
  domain := v.text? "domain"
  owner := v.text? "owner"
  source := .ofJson (v.field "data_source")
  params := (v.field "params").entries
  checks := (v.field "checks").items.map .ofJson
  tags := (v.field "tags").entries.filterMap fun (key, v) => v.string?.map fun s => (key, s)

def toJson (d : SuiteDefinition) : Value :=
  .objectOf
    [("name", some (.string d.name)),
     ("domain", d.domain.map .string),
     ("owner", d.owner.map .string),
     ("data_source", some d.source.toJson),
     ("params", some (.object d.params)),
     ("checks", some (.array (d.checks.map CheckDefinition.toJson))),
     ("tags", some (.object (d.tags.mapValues .string)))]

/-- Reads a definition from a JSON value. -/
def ofValue (v : Value) : Except Json.DecodeError SuiteDefinition := do
  pure (ofJson (← Json.conform shape v))

/-- Reads a definition from a text. -/
def ofText (s : String) : Except Error SuiteDefinition :=
  match shape.read s with
  | .ok v => pure (ofJson v)
  | .error e => throw (.serialization e.message)

/-- Reads a definition from a file. -/
def ofFile (files : Storage.Tree) (path : String) : Logged SuiteDefinition := do
  let text ←
    match files.readText path with
    | .ok text => pure text
    | .error fault =>
      throw (Error.inContext ("Failed to read suite definition '" ++ path ++ "'")
        (.io fault.message))
  let definition ← ofText text
  Logged.log .debug "Loaded suite definition"
    [("suite.name", definition.name),
     ("suite.checks", toString definition.checks.length),
     ("definition.path", path)]
  pure definition

def toDraft (reader : Sql.PatternReader) (r : Registry) (d : SuiteDefinition) :
    Except Error SuiteDraft := do
  let checks ← d.checks.mapM (CheckDefinition.toCheck reader r)
  pure
    { name := d.name
      domain := d.domain
      owner := d.owner
      source := d.source
      params := d.params
      checks
      tags := d.tags }

def toSuite (reader : Sql.PatternReader) (r : Registry) (d : SuiteDefinition) :
    Except Error Suite := do
  (← d.toDraft reader r).build

end SuiteDefinition

end DataQuality
