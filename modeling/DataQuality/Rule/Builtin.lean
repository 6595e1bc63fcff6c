import DataQuality.Rule.Basic
import DataQuality.Rule.Granularity
import DataQuality.Sql.Pattern

/-!
The rules that every registry has. Each measures one number over the rows of a suite, which its query
reads from the suite's base fragment, and names the check that it belongs to.
-/

namespace DataQuality.Builtin

open Json (Value)

/-- A placeholder for a parameter. -/
def slot (name : String) : String := "\x7b\x7b " ++ name ++ " \x7d\x7d"

/-- A query for one value. `filter` follows the name of the base fragment. -/
def measure (value filter : String) : String :=
  "SELECT\n    '" ++ slot "check_name" ++ "' AS check_name,\n    " ++ value
    ++ " AS value\nFROM cte_" ++ slot "suite_name" ++ "_base" ++ filter

/-- The number of rows for which a condition holds. -/
def countOf (condition : String) : String :=
  "COALESCE(SUM(CASE WHEN " ++ condition ++ " THEN 1 ELSE 0 END), 0)"

def notNull : RuleDefinition where
  name := "not_null"
  description := "Counts NULL values in a column"
  template := measure (countOf (slot "column_name" ++ " IS NULL")) ""
  required := ["column_name"]

def unique : RuleDefinition where
  name := "unique"
  description := "Counts duplicate values in a column"
  template := measure ("COUNT(*) - COUNT(DISTINCT " ++ slot "column_name" ++ ")") ""
  required := ["column_name"]

def rowCount : RuleDefinition where
  name := "row_count"
  description := "Counts total rows in the dataset"
  template := measure "COUNT(*)" ""
  required := []

def negativeValues : RuleDefinition where
  name := "negative_values"
  description := "Counts negative values in a numeric column"
  template := measure (countOf (slot "column_name" ++ " < 0")) ""
  required := ["column_name"]

def constantColumn : RuleDefinition where
  name := "constant_column"
  description := "Counts extra distinct values beyond the first"
  template := measure ("COUNT(DISTINCT " ++ slot "column_name" ++ ") - 1") ""
  required := ["column_name"]

def nullRatio : RuleDefinition where
  name := "null_ratio"
  description := "Computes the ratio of NULL values to total records"
  template :=
    measure
      ("SUM(CASE WHEN " ++ slot "column_name"
        ++ " IS NULL THEN 1.0 ELSE 0.0 END) / NULLIF(COUNT(*), 0)") ""
  required := ["column_name"]

def regexMatch : RuleDefinition where
  name := "regex_match"
  description := "Counts values not matching a regex pattern"
  template :=
    measure
      ("COALESCE(SUM(CASE WHEN REGEXP_CONTAINS(" ++ slot "column_name" ++ ", r'"
        ++ slot "regex_pattern" ++ "') THEN 0 ELSE 1 END), 0)") ""
  required := ["column_name", "regex_pattern"]

def duplicateRows : RuleDefinition where
  name := "duplicate_rows"
  description := "Counts duplicate rows based on a combination of key columns"
  template :=
    measure
      ("COUNT(*) - COUNT(DISTINCT CONCAT(\x7b% for column in column_names %\x7dCAST("
        ++ slot "column"
        ++ " AS STRING)\x7b% if not loop.last %\x7d, '|', \x7b% endif %\x7d\x7b% endfor %\x7d))") ""
  required := ["column_names"]

def freshness : RuleDefinition where
  name := "freshness"
  description := "Time elapsed since the most recent record, in the configured granularity"
  template :=
    measure
      ("TIMESTAMP_DIFF(CURRENT_TIMESTAMP(), MAX(" ++ slot "column_name" ++ "), "
        ++ slot "granularity" ++ ")") ""
  required := ["column_name", "granularity"]

def referentialIntegrity : RuleDefinition where
  name := "referential_integrity"
  description := "Counts rows whose value is not found in the reference table"
  template :=
    measure "COUNT(*)"
      (" AS b\nWHERE b." ++ slot "column_name"
        ++ " IS NOT NULL\n  AND NOT EXISTS (\n    SELECT 1 FROM " ++ slot "reference_table"
        ++ " AS r\n    WHERE r." ++ slot "reference_column" ++ " = b." ++ slot "column_name"
        ++ "\n  )")
  required := ["column_name", "reference_table", "reference_column"]

def acceptedValues : RuleDefinition where
  name := "accepted_values"
  description := "Counts values not in the accepted list"
  template :=
    measure
      (countOf
        (slot "column_name" ++ " NOT IN (" ++ slot "accepted_values | join(sep=\", \")" ++ ")")) ""
  required := ["column_name", "accepted_values"]

def valueRange : RuleDefinition where
  name := "value_range"
  description := "Counts values outside the configured range"
  template :=
    measure
      (countOf
        (slot "column_name" ++ " < " ++ slot "lower_bound" ++ " OR " ++ slot "column_name" ++ " > "
          ++ slot "upper_bound")) ""
  required := ["column_name", "lower_bound", "upper_bound"]

/-- The built-in rules by name. -/
def definitions : List RuleDefinition :=
  [acceptedValues, constantColumn, duplicateRows, freshness, negativeValues, notNull, nullRatio,
   referentialIntegrity, regexMatch, rowCount, unique, valueRange]

/-- A rule that comes with the library and is registered on request. -/
def greaterThan : RuleDefinition where
  name := "greater_than"
  description := "Counts values greater than the lower limit value"
  template :=
    measure (countOf (slot "column_name" ++ " > (" ++ slot "lower_limit_value" ++ ")")) ""
  required := ["column_name", "lower_limit_value"]

def bundled : List RuleDefinition := [greaterThan]

end DataQuality.Builtin

namespace DataQuality.Rule

open Json (Value)

/-- The rule that compares values with a pattern, which has to be fit for a string literal. -/
def regexMatch (reader : Sql.PatternReader) (pattern : String) : Except Error Rule := do
  let prepared ← Sql.preparePattern reader pattern
  pure ((ofDefinition Builtin.regexMatch).withParam "regex_pattern" (.string prepared))

def duplicateRows (columns : List String) : Rule :=
  (ofDefinition Builtin.duplicateRows).withParam "column_names" (.strings columns)

def freshness (granularity : Granularity) : Rule :=
  (ofDefinition Builtin.freshness).withParam "granularity" (.string granularity.text)

def referentialIntegrity (table column : String) : Rule :=
  ((ofDefinition Builtin.referentialIntegrity).withParam "reference_table" (.string table)).withParam
    "reference_column" (.string column)

/-- The literals of a list of values. -/
def literals (values : List Value) : Value := .strings (values.map Sql.literal)

def acceptedValues (values : List Value) : Rule :=
  (ofDefinition Builtin.acceptedValues).withParam "accepted_values" (literals values)

def valueRange (lower upper : Float) : Rule :=
  ((ofDefinition Builtin.valueRange).withParam "lower_bound" (.float lower)).withParam
    "upper_bound" (.float upper)

end DataQuality.Rule
