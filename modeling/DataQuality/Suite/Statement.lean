import DataQuality.Logged
import DataQuality.Sql.Table
import DataQuality.Suite.Basic

/-!
The statement of a suite: one named sub-query for its rows, one for each check, and the union of the
checks. `Suite.statement` gives its text.
-/

namespace DataQuality

open Json (Value)
open Sql (TableQuote)

/-- A query that is to become a sub-query: without white space at either end, and without the
semicolons at its end. -/
def bareQuery (s : String) : String :=
  .ofList (Text.trimEnd (Text.dropWhileEnd (· == ';') (Text.trim s.toList)))

namespace Check

/-- The parameters of a check in a suite. Its names cannot be overridden. -/
def identified (c : Check) (suite : String) : Dict Value :=
  ((c.params.insert "check_name" (.string c.name)).insert "suite_name" (.string suite)).insert
    "column_name" (.ofString? c.column)

def fragment (c : Check) (suite : String) : Except Error String :=
  match c.rule with
  | none => throw (.missingRule c.name)
  | some rule => do pure (bareQuery (← rule.render (c.identified suite)))

/-- The description of a check on one line. -/
def comment (c : Check) : String :=
  match c.description with
  | some description =>
    if Text.hasContent description then
      let words := (Text.words description.toList).map String.ofList
      "-- Check CTE: " ++ c.name ++ " [" ++ Text.join " " words ++ "]\n"
    else
      "-- Check CTE: " ++ c.name ++ "\n"
  | none => "-- Check CTE: " ++ c.name ++ "\n"

/-- The part of the statement that defines the sub-query of a check. -/
def block (c : Check) (suite : String) : Except Error String := do
  let fragment ← c.fragment suite
  pure (",\n" ++ c.comment ++ "cte_" ++ c.name ++ " AS (\n" ++ fragment ++ "\n)")

/-- The part of the statement that reads the sub-query of a check. -/
def selection (c : Check) : String := "SELECT * FROM cte_" ++ c.name

end Check

namespace DataSource

/-- The query for the rows of a source. -/
def fragment (s : DataSource) (suite : String) (params : Dict Value) (quote : TableQuote) :
    Except Error String :=
  let label := suite ++ ".data_source"
  match s.kind with
  | .table => do
    let table ← Template.render label (Text.stripped (s.table.getD "")) params
    match Sql.checkTable table quote.char? with
    | .ok _ => pure ("SELECT * FROM " ++ quote.wrap table)
    | .error e => throw (.invalidSuite suite e.message)
  | .query => do
    pure (bareQuery (← Template.render label (s.query.getD "") params))

end DataSource

namespace Suite

/-- The part of the statement that defines the sub-query of the base. -/
def baseBlock (s : Suite) (base : String) : String :=
  "-- Base CTE (data source: " ++ s.source.kind.text ++ ")\nWITH cte_" ++ s.name ++ "_base AS (\n"
    ++ base ++ "\n)"

def statement (s : Suite) (quote : TableQuote) : Except Error String :=
  if s.checks.isEmpty then
    throw (.invalidSuite s.name "suite has no checks")
  else do
    let base ← s.source.fragment s.name s.params quote
    let blocks ← s.checks.mapM (·.block s.name)
    pure (s.baseBlock base ++ Text.join "" blocks ++ "\n"
      ++ Text.join "\nUNION ALL\n" (s.checks.map Check.selection) ++ "\n")

/-- The statement, with an event that tells its length in bytes. -/
def compile (s : Suite) (quote : TableQuote) : Logged String := do
  let sql ← s.statement quote
  Logged.log .debug "Suite compiled" [("sql.length", toString (Text.byteLength sql.toList))]
  pure sql

end Suite

end DataQuality
