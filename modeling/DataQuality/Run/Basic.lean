import DataQuality.Export.Basic
import DataQuality.Run.Engine
import DataQuality.Run.Options
import DataQuality.Run.Report
import DataQuality.Suite.Statement

/-!
Runs of a suite. The statement of the suite goes to the engine, first for a dry run and then for its
execution; the rows are classified, and the results are exported. Whatever the engine answers becomes
a part of the report.
-/

namespace DataQuality

open Json (Value)
open Time (Timestamp)

/-- How suites are run: the quotes around tables, the exporter, and the optional events. -/
structure Runner where
  quote : Sql.TableQuote
  exporter : Option Exporter
  settings : Log.Settings

/-- The instants at which a run begins and ends. -/
structure Clock where
  start : Timestamp
  stop : Timestamp

/-- What an engine answers in a run; a stage that is left out has no answer. -/
structure Answers where
  validation : Option (Except Error JobStats)
  execution : Option (Except Error QueryOutput)

namespace Answers

/-- A dry run comes first, if it is asked for. Without a failure there, the statement is executed,
unless it was only to be validated. -/
def ofEngine (engine : Engine) (options : RunOptions) (sql : String) : Answers :=
  if options.dryRun then
    let answer := engine.dryRun sql
    ⟨some answer,
      if options.validateOnly || !answer.isOk then none else some (engine.execute sql)⟩
  else
    ⟨none, some (engine.execute sql)⟩

def calls (a : Answers) (sql : String) : List EngineCall :=
  (a.validation.map fun _ => .dryRun sql).toList ++ (a.execution.map fun _ => .execute sql).toList

def status (a : Answers) : RunStatus :=
  match a.execution, a.validation with
  | some (.ok _), _ => .success
  | some (.error _), _ => .failed
  | none, some (.ok _) => .validationSuccess
  | none, some (.error _) => .validationFailed
  | none, none => .unknown

/-- The rows of a statement that was executed. -/
def rows? (a : Answers) (flattenRows : Bool) : Option (List Row) :=
  match a.execution with
  | some (.ok output) => some (if flattenRows then output.rows.map flatten else output.rows)
  | _ => none

end Answers

namespace RunMetadata

/-- What an engine tells replaces what was known before. -/
def withStats (m : RunMetadata) (s : JobStats) : RunMetadata :=
  { m with
    jobId := s.jobId <|> m.jobId
    bytesProcessed := s.bytesProcessed <|> m.bytesProcessed
    cacheHit := s.cacheHit <|> m.cacheHit }

/-- Records a failure: its messages, and its job, if it has one. -/
def withFailure (m : RunMetadata) (e : Error) : RunMetadata :=
  e.messages.foldl recordError { m with jobId := e.jobId <|> m.jobId }

def withAnswer (m : RunMetadata) : Option (Except Error JobStats) → RunMetadata
  | none => m
  | some (.ok stats) => m.withStats stats
  | some (.error e) => m.withFailure e

/-- The record of a run with some answers. -/
def ofAnswers (suite : String) (options : RunOptions) (clock : Clock) (a : Answers) :
    RunMetadata :=
  let m := start suite options.validateFirst options.validateOnly clock.start
  let m := { m with extra := options.extra }
  let m := m.withAnswer a.validation
  let m := m.withAnswer (a.execution.map fun answer => answer.map QueryOutput.stats)
  (m.finish a.status clock.stop).2

end RunMetadata

namespace Runner

def describeQuote : Sql.TableQuote → String
  | .backtick => "Backtick"
  | .doubleQuote => "DoubleQuote"
  | .bare => "None"

/-- The diagnostic form of a runner. -/
def describe (r : Runner) (engine : String) : String :=
  "SentinelRunner \x7b executor: " ++ Log.quoted engine
    ++ ", compiler: SuiteCompiler \x7b engine: SqlTemplateEngine, options: CompilerOptions \x7b table_quote: "
    ++ describeQuote r.quote ++ " \x7d \x7d, exporter: "
    ++ Log.optional Log.quoted (r.exporter.map Exporter.name) ++ " \x7d"

/-- The event that tells the statement. -/
def statementEvents (r : Runner) (sql : String) : List Log.Event :=
  if r.settings.sql then
    [⟨.info, "Compiled suite", [("sql", Log.truncate sql r.settings.maxFieldLength)]⟩]
  else
    []

def statsEvents (r : Runner) (s : JobStats) : List Log.Event :=
  if r.settings.jobStats then
    [⟨.info, "Engine job stats",
      [("job.id", Log.optional Log.quoted s.jobId),
       ("job.bytes_processed", Log.optional toString s.bytesProcessed),
       ("job.cache_hit", Log.optional Log.flag s.cacheHit)]⟩]
  else
    []

/-- The events of the answers of the engine, up to the end of a run without results. -/
def answerEvents (r : Runner) (a : Answers) : List Log.Event :=
  let validation :=
    match a.validation with
    | some (.ok stats) => r.statsEvents stats
    | some (.error e) => [⟨.warn, "Dry run failed", [("error", e.message)]⟩]
    | none => []
  let execution :=
    match a.execution with
    | some (.ok output) => r.statsEvents output.stats
    | some (.error e) => [⟨.warn, "Execution failed", [("error", e.message)]⟩]
    | none =>
      if a.status = .validationSuccess then
        [⟨.info, "Validation-only run finished", [("run.status", a.status.text)]⟩]
      else
        []
  validation ++ execution

/-- The events of the rows and of the end of a run with results. -/
def resultEvents (r : Runner) (s : Suite) (rows : List Row) (report : RunReport) :
    List Log.Event :=
  s.classifyEvents r.settings rows
    ++ [⟨.info, "Suite run finished",
      [("run.status", report.metadata.status.text),
       ("run.rows", toString rows.length),
       ("run.results", toString report.results.length),
       ("run.failed", toString report.failedResults.length),
       ("run.duration_ms", Decimal.plain (report.metadata.durationMs.getD 0))]⟩]

/-- The export of the results, if there are results and they are to be exported. -/
def delivery? (r : Runner) (options : RunOptions) (files : Storage.Tree) (report : RunReport) :
    Option Delivery :=
  if options.exports && report.metadata.status = .success then
    r.exporter.map fun exporter => exporter.deliver files report.metadata report.results
  else
    none

def deliveryEvents (r : Runner) (d : Delivery) : List Log.Event :=
  let name := ("export.exporter", (r.exporter.map Exporter.name).getD "")
  let last : Log.Event :=
    match d.outcome with
    | .ok place => ⟨.info, "Export complete", [name, ("export.destination", place)]⟩
    | .error e => ⟨.warn, "Export failed", [name, ("error", e.message)]⟩
  d.events ++ [last]

end Runner

/-- What a run has done: its outcome, the calls of the engine, whether the exporter was called, the
files, and the events. -/
structure Run where
  outcome : Except Error RunReport
  calls : List EngineCall
  exported : Bool
  files : Storage.Tree
  events : List Log.Event

/-- Runs a suite. -/
def Runner.run (r : Runner) (engine : Engine) (clock : Clock) (files : Storage.Tree) (s : Suite)
    (options : RunOptions) : Run :=
  let compiled := s.compile r.quote
  match compiled.outcome with
  | .error e => ⟨.error e, [], false, files, compiled.events⟩
  | .ok sql =>
    let answers := Answers.ofEngine engine options sql
    let metadata := RunMetadata.ofAnswers s.name options clock answers
    let rows? := answers.rows? options.flattenRows
    let report : RunReport := ⟨sql, metadata, s.classify (rows?.getD []), none⟩
    let delivery? := r.delivery? options files report
    let exportError :=
      match delivery?.map Delivery.outcome with
      | some (.error e) => some e.message
      | _ => none
    { outcome := .ok { report with exportError }
      calls := answers.calls sql
      exported := delivery?.isSome
      files := (delivery?.map Delivery.files).getD files
      events :=
        compiled.events ++ r.statementEvents sql ++ r.answerEvents answers
          ++ (rows?.map fun rows => r.resultEvents s rows report).getD []
          ++ (delivery?.map r.deliveryEvents).getD [] }

end DataQuality
