import DataQuality.Export.Basic
import DataQuality.Sql.Name
import DataQuality.Storage.Connection
import DataQuality.Text.Letter

/-!
Export into a database: a row in a table of runs, and a row for each result in a table of results. The
rows of one export are written in one transaction.
-/

namespace DataQuality.Export

open Json (Value)
open Storage (Cell Connection Database DatabaseFault Session Table Trouble)

/-- The names of the two tables. -/
structure TableNames where
  runs : String
  results : String

namespace TableNames

def standard : TableNames := ⟨"sentinel_runs", "sentinel_results"⟩

/-- Names that are given have to be valid. -/
def checked (runs results : String) : Except Error TableNames := do
  Sql.checkName runs
  Sql.checkName results
  pure ⟨runs, results⟩

end TableNames

def runTableColumns : List String :=
  ["run_id", "suite_name", "job_id", "status", "started_at", "ended_at", "duration_ms",
   "bytes_processed", "cache_hit", "validate_first", "validate_only", "error_count", "errors",
   "extra"]

def resultTableColumns : List String :=
  ["result_id", "run_id", "check_name", "status", "severity", "value", "threshold_lower",
   "threshold_upper", "message"]

/-- Keywords of the language that cannot be names of tables. -/
def keywords : List String :=
  ["add", "all", "alter", "and", "as", "autoincrement", "between", "case", "check", "collate",
   "commit", "constraint", "create", "default", "deferrable", "delete", "distinct", "drop", "else",
   "escape", "except", "exists", "foreign", "from", "group", "having", "in", "index", "insert",
   "intersect", "into", "is", "isnull", "join", "limit", "not", "nothing", "notnull", "null", "on",
   "or", "order", "primary", "references", "returning", "select", "set", "table", "then", "to",
   "transaction", "union", "unique", "update", "using", "values", "when", "where"]

/-- Names of tables do not depend on case. -/
def sameName (a b : String) : Bool := Text.lower a == Text.lower b

def find? (d : Database) (name : String) : Option Table :=
  d.tables.find? fun t => sameName t.name name

/-- Adds an empty table, unless there is a table of that name. -/
def createTable (name : String) (columns : List String) (d : Database) :
    Except DatabaseFault Database :=
  if keywords.contains (Text.lower name) then
    throw (.keyword name)
  else if (Text.afterLeading? "sqlite_".toList (Text.lowerChars name.toList)).isSome then
    throw (.reserved name)
  else
    match find? d name with
    | some _ => pure d
    | none => pure ⟨d.tables ++ [⟨name, columns, [], 0⟩]⟩

/-- The table of a name, which needs the given columns. -/
def target (name : String) (columns : List String) (d : Database) : Except DatabaseFault Table :=
  match find? d name with
  | none => throw (.noTable name)
  | some t =>
    match columns.find? (!t.columns.contains ·) with
    | some column => throw (.noColumn name column)
    | none => pure t

def appendRow (name : String) (cells : List Cell) (d : Database) : Database :=
  ⟨d.tables.map fun t => if sameName t.name name then t.append cells else t⟩

/-- Prepares to insert rows into a table. -/
def prepare (name : String) (columns : List String) : Session Unit :=
  Session.change fun d => do
    let _ ← target name columns d
    pure d

/-- Inserts a row into a table. -/
def insert (name : String) (columns : List String) (cells : List Cell) : Session Unit :=
  Session.operation fun v => do
    let t ← target name columns v.current
    pure { v.put (appendRow name cells v.current) with lastRowId := t.lastId + 1 }

/-- The row of a run without its number. -/
def runRow (m : RunMetadata) : List Cell :=
  [.text m.suiteName, .ofText? m.jobId, .text m.status.text, .text m.startedAt.offsetText,
   .ofText? (m.endedAt.map Time.Timestamp.offsetText), .ofFloat? m.durationMs,
   .ofNat? m.bytesProcessed, (m.cacheHit.map .ofBool).getD .null, .ofBool m.validateFirst,
   .ofBool m.validateOnly, .int m.errorCount, .text (Value.strings m.errors).compact,
   .text (Value.object m.extra).compact]

/-- The row of a result of a run without its number. -/
def resultRow (runId : Nat) (r : CheckResult) : List Cell :=
  [.int runId, .text r.checkName, .text r.status.text, .text r.severity.text, .ofFloat? r.value,
   .ofFloat? r.lower, .ofFloat? r.upper, .text r.message]

def createTables (names : TableNames) : Session Unit := do
  Session.change (createTable names.runs runTableColumns)
  Session.change (createTable names.results resultTableColumns)

/-- A column keeps numbers of 64 bits with sign. -/
def checkNumber (column : String) (n : Nat) : Session Unit :=
  if 0x8000000000000000 ≤ n then throw (.tooLarge column) else pure ()

/-- Inserts the rows of a run and of its results, and gives the number of the run. -/
def insertRun (names : TableNames) (m : RunMetadata) (results : List CheckResult) :
    Session Nat := do
  insert names.runs (runTableColumns.drop 1) (runRow m)
  let runId ← Session.lastRowId
  prepare names.results (resultTableColumns.drop 1)
  (results.map (resultRow runId)).forM (insert names.results (resultTableColumns.drop 1))
  pure runId

/-- Writes a run into a database. The tables are created before the transaction, and stay also where
it fails. -/
def write (names : TableNames) (m : RunMetadata) (results : List CheckResult) : Session Nat := do
  createTables names
  checkNumber "bytes_processed" (m.bytesProcessed.getD 0)
  checkNumber "error_count" m.errorCount
  Session.transaction (insertRun names m results)

/-- The database in a file. A file that does not exist or is empty holds the empty database. That a
file holds no database is not found out before there is a connection to it. -/
def openDatabase (trouble : Trouble) (files : Storage.Tree) (path : String) :
    Except DatabaseFault (Except DatabaseFault Database) :=
  match trouble 0 with
  | some message => throw (.system message)
  | none =>
    match files.find (Storage.route path) with
    | .ok (.file (.database d)) => pure (pure d)
    | .ok (.file (.text "")) => pure (pure .empty)
    | .ok (.file _) => pure (throw .notDatabase)
    | .ok .directory => throw (.cannotOpen path)
    | .error _ => pure (pure .empty)

/-- An export during which the system lets some operations on the database fail. -/
def sqlite (path : String) (names : TableNames) (trouble : Trouble) : Exporter where
  name := "sqlite"
  deliver files metadata results :=
    let failure (fault : DatabaseFault) : Error := .exportFailed "sqlite" fault.message
    let opened : Log.Event := ⟨.debug, "Opened SQLite database", [("export.database", path)]⟩
    match makeParent "sqlite" path files with
    | .error e => ⟨files, .error e, []⟩
    | .ok files =>
      match openDatabase trouble files path with
      | .error fault => ⟨files, .error (failure fault), []⟩
      | .ok (.error fault) => ⟨files, .error (failure fault), [opened]⟩
      | .ok (.ok d) =>
        let (d, stored) := (write names metadata results).onDatabase trouble d
        let files := files.insert (Storage.route path) (.file (.database d))
        match stored with
        | .error fault => ⟨files, .error (failure fault), [opened]⟩
        | .ok runId =>
          let place := path ++ "#" ++ names.runs ++ "/" ++ toString runId
          ⟨files, .ok place,
            [opened, exported "sqlite" [("export.destination", place)] results]⟩

end DataQuality.Export
