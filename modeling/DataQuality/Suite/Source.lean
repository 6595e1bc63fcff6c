import DataQuality.Json.Fields
import DataQuality.Text.Blank

/-!
Where a suite takes its rows from: a table or a query.
-/

namespace DataQuality

open Json (Value Shape)

inductive SourceKind
  | table
  | query
  deriving DecidableEq, Inhabited

namespace SourceKind

def all : List SourceKind := [.table, .query]

def text : SourceKind → String
  | .table => "TABLE"
  | .query => "QUERY"

def ofText? (s : String) : Option SourceKind := all.find? (·.text == s)

def shape : Shape := .choice (all.map text)

theorem ofText?_text (k : SourceKind) : ofText? k.text = some k := by
  cases k <;> rfl

end SourceKind

/-- A source as it is declared; `DataSource.fault?` says what is wrong with a declaration. -/
structure DataSource where
  kind : SourceKind
  table : Option String
  query : Option String
  description : Option String

namespace DataSource

def ofTable (table : String) : DataSource := ⟨.table, some table, none, none⟩

def ofQuery (query : String) : DataSource := ⟨.query, none, some query, none⟩

def hasContent (s : Option String) : Bool := s.any Text.hasContent

inductive Fault
  | noTable
  | extraQuery
  | noQuery
  | extraTable
  deriving DecidableEq

def Fault.message : Fault → String
  | .noTable => "TABLE data source requires a table"
  | .extraQuery => "TABLE data source must not also set a query"
  | .noQuery => "QUERY data source requires a query"
  | .extraTable => "QUERY data source must not also set a table"

/-- A source needs the entry of its kind, with some content, and must not have the other one. -/
def fault? (s : DataSource) : Option Fault :=
  match s.kind with
  | .table =>
    if !hasContent s.table then some .noTable
    else if s.query.isSome then some .extraQuery
    else none
  | .query =>
    if !hasContent s.query then some .noQuery
    else if s.table.isSome then some .extraTable
    else none

def shape : Shape :=
  .record "DataSource"
    [("type", .defaulted, SourceKind.shape),
     ("table", .defaulted, .nullable .text),
     ("query", .defaulted, .nullable .text),
     ("description", .defaulted, .nullable .text)]

def ofJson (v : Value) : DataSource where
  kind := ((v.text? "type").bind SourceKind.ofText?).getD default
  table := v.text? "table"
  query := v.text? "query"
  description := v.text? "description"

def toJson (s : DataSource) : Value :=
  .objectOf
    [("type", some (.string s.kind.text)),
     ("table", s.table.map .string),
     ("query", s.query.map .string),
     ("description", s.description.map .string)]

end DataSource

end DataQuality
