import DataQuality.Error
import DataQuality.Sql.Literal

/-!
Patterns that go into string literals of a statement. Which texts are patterns is up to a library of
regular expressions, which is a parameter here.
-/

namespace DataQuality.Sql

/-- A library of regular expressions: why it cannot compile a text, if it cannot. -/
structure PatternReader where
  refusal? : String → Option String

inductive PatternFault
  | tooLong
  | nullByte
  | invalid (cause : String)
  | explosive
  deriving DecidableEq

def PatternFault.message : PatternFault → String
  | .tooLong => "Regex pattern too long (max 1000 characters)"
  | .nullByte => "Regex pattern cannot contain null bytes"
  | .invalid cause => "Invalid regex pattern: " ++ cause
  | .explosive => "Regex pattern might cause ReDoS attack"

/-- Nested repetitions that take exponential time in a matcher that goes back. -/
def explosiveShapes : List String := ["(.*)*", "(.*)+", "(.+)+", "(a+)+", "(a*)*"]

def patternFault? (reader : PatternReader) (pattern : String) : Option PatternFault :=
  if 1000 < Text.byteLength pattern.toList then
    some .tooLong
  else if pattern.toList.contains (Char.ofNat 0) then
    some .nullByte
  else
    match reader.refusal? pattern with
    | some cause => some (.invalid cause)
    | none => if explosiveShapes.any (Text.contains pattern) then some .explosive else none

/-- The pattern as the content of a string literal. -/
def preparePattern (reader : PatternReader) (pattern : String) : Except Error String :=
  match patternFault? reader pattern with
  | some fault => throw (.security fault.message)
  | none => pure (doubleQuotes pattern)

end DataQuality.Sql
