import DataQuality.Error
import DataQuality.Json.Shape
import DataQuality.Text.Blank

/-!
References to tables. A reference is wrapped in the quote character of the engine, so it may hold
nothing that ends the quotes or the statement.
-/

namespace DataQuality.Sql

/-- The style in which table references are quoted. -/
inductive TableQuote
  | backtick
  | doubleQuote
  | bare
  deriving DecidableEq

namespace TableQuote

instance : Inhabited TableQuote := ⟨.backtick⟩

def all : List TableQuote := [.backtick, .doubleQuote, .bare]

def text : TableQuote → String
  | .backtick => "backtick"
  | .doubleQuote => "double_quote"
  | .bare => "none"

def char? : TableQuote → Option Char
  | .backtick => some '\x60'
  | .doubleQuote => some '"'
  | .bare => none

def ofText? (s : String) : Option TableQuote := all.find? (·.text == s)

def shape : Json.Shape := .choice (all.map text)

/-- A table reference between its quotes. -/
def wrap (quote : TableQuote) (table : String) : String :=
  match quote.char? with
  | some c => .ofList (c :: table.toList ++ [c])
  | none => table

end TableQuote

inductive TableFault
  | blank
  | nullByte
  | dangerous (pattern : String)
  | holdsQuote (quote : Char)
  deriving DecidableEq

def TableFault.message : TableFault → String
  | .blank => "Table reference cannot be empty"
  | .nullByte => "Table reference cannot contain null bytes"
  | .dangerous pattern => "Table reference contains dangerous pattern: '" ++ pattern ++ "'"
  | .holdsQuote quote => "Table reference cannot contain the quote character " ++ quote.toString

/-- What ends a statement or opens a comment. -/
def dangerousPatterns : List String := [";", "--", "/*", "*/"]

def tableFault? (table : String) (quote : Option Char) : Option TableFault :=
  if !Text.hasContent table then
    some .blank
  else if table.toList.contains (Char.ofNat 0) then
    some .nullByte
  else
    match dangerousPatterns.find? (Text.contains table) with
    | some pattern => some (.dangerous pattern)
    | none =>
      match quote with
      | some c => if table.toList.contains c then some (.holdsQuote c) else none
      | none => none

def checkTable (table : String) (quote : Option Char) : Except Error Unit :=
  match tableFault? table quote with
  | some fault => throw (.security fault.message)
  | none => pure ()

end DataQuality.Sql
