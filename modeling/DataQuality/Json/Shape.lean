import DataQuality.Json.Printer
import DataQuality.Time.Timestamp

/-!
Shapes of JSON documents. A shape says what a document has to look like to be read as a value of the
domain; `DecodeError` lists what can be wrong with one, in its text or in its shape.
-/

namespace DataQuality.Json

/-- What becomes of a record without a field: an error; an absent value, unless the record is written
as an array; or a default in either form. -/
inductive Presence
  | required
  | optional
  | defaulted
  deriving DecidableEq

inductive Shape
  | any
  | text
  | flag
  | real
  | natural
  | timestamp
  | choice (variants : List String)
  | nullable (inner : Shape)
  | sequence (inner : Shape)
  | dictionary (inner : Shape)
  | record (name : String) (fields : List (String × Presence × Shape))

inductive DecodeError
  | unexpectedEnd (inside : String)
  | expected (what : String)
  | invalidEscape
  | invalidNumber
  | numberOutOfRange
  | controlCharacter
  | keyMustBeString
  | loneSurrogate
  | unexpectedEndOfEscape
  | trailingComma
  | trailingCharacters
  | tooDeep
  | invalidType (found wanted : String)
  | invalidValue (found wanted : String)
  | invalidLength (length : Nat) (wanted : String)
  | missingField (name : String)
  | duplicateField (name : String)
  | unknownVariant (name : String) (variants : List String)
  | timestamp (cause : Time.ReadError)
  | noAlternative (name : String)

/-- The names of the variants of a choice, as an error lists them. -/
def oneOf (variants : List String) : String :=
  let quoted := variants.map fun v => .ofList ['\x60'] ++ v ++ .ofList ['\x60']
  match quoted with
  | [a, b] => a ++ " or " ++ b
  | [a] => a
  | _ => "one of " ++ Text.join ", " quoted

def backquoted (s : String) : String := .ofList ('\x60' :: s.toList ++ ['\x60'])

def DecodeError.message : DecodeError → String
  | .unexpectedEnd inside => "EOF while parsing " ++ inside
  | .expected what => "expected " ++ what
  | .invalidEscape => "invalid escape"
  | .invalidNumber => "invalid number"
  | .numberOutOfRange => "number out of range"
  | .controlCharacter =>
    "control character (\\u0000-\\u001F) found while parsing a string"
  | .keyMustBeString => "key must be a string"
  | .loneSurrogate => "lone leading surrogate in hex escape"
  | .unexpectedEndOfEscape => "unexpected end of hex escape"
  | .trailingComma => "trailing comma"
  | .trailingCharacters => "trailing characters"
  | .tooDeep => "recursion limit exceeded"
  | .invalidType found wanted => "invalid type: " ++ found ++ ", expected " ++ wanted
  | .invalidValue found wanted => "invalid value: " ++ found ++ ", expected " ++ wanted
  | .invalidLength length wanted =>
    "invalid length " ++ toString length ++ ", expected " ++ wanted
  | .missingField name => "missing field " ++ backquoted name
  | .duplicateField name => "duplicate field " ++ backquoted name
  | .unknownVariant name variants =>
    "unknown variant " ++ backquoted name ++ ", expected " ++ oneOf variants
  | .timestamp cause => cause.message
  | .noAlternative name => "data did not match any variant of untagged enum " ++ name

/-- What an error says was expected of an array that is read as a record. -/
def recordOf (name : String) (fields : Nat) : String :=
  "struct " ++ name ++ " with " ++ toString fields
    ++ (if fields = 1 then " element" else " elements")

/-- What an error says it found in place of the expected kind of value. -/
def found : Value → String
  | .null => "null"
  | .bool b => "boolean " ++ backquoted (if b then "true" else "false")
  | .number (.int n) => "integer " ++ backquoted (toString n)
  | .number (.float x) => "floating point " ++ backquoted (Decimal.Layout.json.write x)
  | .string s => "string " ++ quote s
  | .array _ => "sequence"
  | .object _ => "map"

/-- What an error says was expected. -/
def Shape.wanted : Shape → String
  | .any => "any valid JSON value"
  | .text => "a string"
  | .flag => "a boolean"
  | .real => "f64"
  | .natural => "u64"
  | .timestamp => "an RFC 3339 formatted date and time string"
  | .choice _ => "string or map"
  | .nullable inner => inner.wanted
  | .sequence _ => "a sequence"
  | .dictionary _ => "a map"
  | .record name _ => "struct " ++ name

/-- A scalar read as one of the scalar shapes. Whole numbers are read as floats where floats are
wanted. -/
def Shape.ofScalar (shape : Shape) (v : Value) : Except DecodeError Value :=
  match shape, v with
  | .any, v => pure v
  | .text, .string s => pure (.string s)
  | .flag, .bool b => pure (.bool b)
  | .real, .number n => pure (.number (.float n.toFloat))
  | .natural, .number (.int n) =>
    if 0 ≤ n then
      pure (.number (.int n))
    else
      throw (.invalidValue (found v) shape.wanted)
  | .timestamp, .string s =>
    match Time.Timestamp.read s.toList with
    | .ok t => pure (.string t.text)
    | .error e => throw (.timestamp e)
  | _, _ => throw (.invalidType (found v) shape.wanted)

/-- The first field that is required and has not been read. -/
def missing? (fields : List (String × Presence × Shape)) (read : Dict Value) :
    Option DecodeError :=
  (fields.find? fun (name, presence, shape) =>
      !read.hasKey name &&
        match presence, shape with
        | .required, .nullable _ => false
        | .required, _ => true
        | _, _ => false).map fun (name, _) => .missingField name

end DataQuality.Json
