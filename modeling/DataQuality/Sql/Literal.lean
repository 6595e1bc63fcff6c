import DataQuality.Json.Printer
import DataQuality.Text.Quoted

/-!
String literals of SQL, which stand in single quotes.
-/

namespace DataQuality.Sql

def quoted (s : List Char) : List Char := Text.Quoted.write '\'' s

def doubleQuotes (s : String) : String := .ofList (Text.Quoted.double '\'' s.toList)

def quoteText (s : String) : String := .ofList (quoted s.toList)

/-- The literal of a JSON value. Arrays and objects become the literal of their JSON text. -/
def literal : Json.Value → String
  | .null => "NULL"
  | .bool b => if b then "TRUE" else "FALSE"
  | .number n => n.text
  | .string s => quoteText s
  | v => quoteText v.compact

end DataQuality.Sql
