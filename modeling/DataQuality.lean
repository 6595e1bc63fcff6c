import DataQuality.CheckResult
import DataQuality.Decimal.Layout
import DataQuality.Decimal.Read
import DataQuality.Decimal.Remainder
import DataQuality.Decimal.Shortest
import DataQuality.Dict
import DataQuality.Error
import DataQuality.Export.Basic
import DataQuality.Export.Csv
import DataQuality.Export.Format
import DataQuality.Export.Json
import DataQuality.Export.Prometheus
import DataQuality.Export.Sqlite
import DataQuality.Flatten
import DataQuality.Json.Conform
import DataQuality.Json.Document
import DataQuality.Json.Fields
import DataQuality.Json.Printer
import DataQuality.Json.Reader
import DataQuality.Json.Shape
import DataQuality.Json.Value
import DataQuality.Log
import DataQuality.Logged
import DataQuality.Pattern.Property
import DataQuality.Pattern.Syntax
import DataQuality.Rule.Basic
import DataQuality.Rule.Builtin
import DataQuality.Rule.Definition
import DataQuality.Rule.Granularity
import DataQuality.Rule.Registry
import DataQuality.Run.Basic
import DataQuality.Run.Engine
import DataQuality.Run.Options
import DataQuality.Run.Report
import DataQuality.RunMetadata
import DataQuality.Severity
import DataQuality.Sql.Literal
import DataQuality.Sql.Name
import DataQuality.Sql.Pattern
import DataQuality.Sql.Table
import DataQuality.Status
import DataQuality.Storage.Connection
import DataQuality.Storage.Database
import DataQuality.Storage.Tree
import DataQuality.Suite.Basic
import DataQuality.Suite.Check
import DataQuality.Suite.Classify
import DataQuality.Suite.Definition
import DataQuality.Suite.Source
import DataQuality.Suite.Statement
import DataQuality.Template.Fault
import DataQuality.Template.Filter
import DataQuality.Template.Meaning
import DataQuality.Template.Outline
import DataQuality.Template.Parser
import DataQuality.Template.Render
import DataQuality.Template.Residue
import DataQuality.Template.Scan
import DataQuality.Template.Scope
import DataQuality.Template.Syntax
import DataQuality.Template.Tester
import DataQuality.Template.Value
import DataQuality.Text.Blank
import DataQuality.Text.CaseTable
import DataQuality.Text.Csv
import DataQuality.Text.Letter
import DataQuality.Text.Quoted
import DataQuality.Text.Search
import DataQuality.Text.WordTable
import DataQuality.Threshold
import DataQuality.Time.Timestamp
import DataQuality.Proofs.Run.Record
import DataQuality.Proofs.Run.Stages
import DataQuality.Proofs.Outcome
import DataQuality.Proofs.Suite.Layout
import DataQuality.Proofs.Suite.Classification
import DataQuality.Proofs.Run.Coverage
import DataQuality.Proofs.Dict
import DataQuality.Proofs.Rule.Registry
import DataQuality.Proofs.Suite.Preparation
import DataQuality.Proofs.Suite.Verdict
import DataQuality.Proofs.Suite.Terminator
import DataQuality.Proofs.Suite.Identity
import DataQuality.Proofs.Template.Closure
import DataQuality.Proofs.Text.Case
import DataQuality.Proofs.Sql.Name
import DataQuality.Proofs.Suite.Naming
import DataQuality.Proofs.Suite.Indifference
import DataQuality.Proofs.Template.Steady
import DataQuality.Proofs.Rule.Labels
import DataQuality.Proofs.Suite.Attribution
import DataQuality.Proofs.Rule.Construction
import DataQuality.Proofs.Rule.Lookup
import DataQuality.Proofs.Flatten.Leaves
import DataQuality.Proofs.Flatten.Spelling
import DataQuality.Proofs.Flatten.Entries
import DataQuality.Proofs.Flatten.Reversal
import DataQuality.Proofs.Suite.Nesting
import DataQuality.Proofs.Template.Marks
import DataQuality.Proofs.Suite.Marking
import DataQuality.Proofs.Text.Bytes
import DataQuality.Proofs.Flatten.Order
import DataQuality.Proofs.Template.Unresolved
import DataQuality.Proofs.Template.Segment
import DataQuality.Proofs.Template.Scanning
import DataQuality.Proofs.Template.PlainScanning
import DataQuality.Proofs.Template.Listing
import DataQuality.Proofs.Template.Pieces
import DataQuality.Proofs.Rule.Missing
import DataQuality.Proofs.Sql.Tokens
import DataQuality.Proofs.Rule.AcceptedValues
import DataQuality.Proofs.Rule.DuplicateRows
import DataQuality.Proofs.Sql.Table
import DataQuality.Proofs.Suite.Table
import DataQuality.Proofs.Run.Statistics
import DataQuality.Proofs.Json.Number
import DataQuality.Proofs.Record.Result
import DataQuality.Proofs.Record.Run
import DataQuality.Proofs.Text.Csv
import DataQuality.Proofs.Export.Csv
import DataQuality.Proofs.Storage.Session
import DataQuality.Proofs.Storage.Tree
import DataQuality.Proofs.Export.Tables
import DataQuality.Proofs.Export.Database
import DataQuality.Proofs.Export.Sqlite
import DataQuality.Proofs.Export.Exposition
import DataQuality.Proofs.Export.Prometheus
import DataQuality.Proofs.Json.Record
import DataQuality.Proofs.Suite.Written
import DataQuality.Proofs.Log.Truncation
import DataQuality.Proofs.Run.Finish
import DataQuality.Proofs.Storage.Shape
import DataQuality.Proofs.Log.Optional
import DataQuality.Proofs.Export.Provided
import DataQuality.Proofs.Run.Events
