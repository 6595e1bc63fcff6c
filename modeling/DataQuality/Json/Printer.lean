import DataQuality.Decimal.Layout
import DataQuality.Json.Value
import DataQuality.Text.Search

/-!
JSON text: the compact form without spaces, and the indented form.
-/

namespace DataQuality.Json

def Number.text : Number → String
  | .int n => toString n
  | .float x => Decimal.Layout.json.write x

def hexDigit (n : Nat) : Char := if n < 10 then Char.ofNat (48 + n) else Char.ofNat (87 + n)

/-- Only quotes, backslashes and control characters are escaped. -/
def escapeChar (c : Char) : List Char :=
  if c == '"' then ['\\', '"']
  else if c == '\\' then ['\\', '\\']
  else if c == '\n' then ['\\', 'n']
  else if c == '\r' then ['\\', 'r']
  else if c == '\t' then ['\\', 't']
  else if c.toNat == 8 then ['\\', 'b']
  else if c.toNat == 12 then ['\\', 'f']
  else if c.toNat < 32 then ['\\', 'u', '0', '0', hexDigit (c.toNat / 16), hexDigit (c.toNat % 16)]
  else [c]

def quote (s : String) : String :=
  .ofList ('"' :: s.toList.flatMap escapeChar ++ ['"'])

namespace Value

mutual

/-- JSON text without spaces. -/
def compact : Value → String
  | .null => "null"
  | .bool b => if b then "true" else "false"
  | .number n => n.text
  | .string s => quote s
  | .array items => "[" ++ Text.join "," (compactItems items) ++ "]"
  | .object fields => "\x7b" ++ Text.join "," (compactFields fields) ++ "\x7d"

def compactItems : List Value → List String
  | [] => []
  | v :: rest => compact v :: compactItems rest

def compactFields : List (String × Value) → List String
  | [] => []
  | (k, v) :: rest => (quote k ++ ":" ++ compact v) :: compactFields rest

end

/-- A line break followed by two spaces for each level. -/
def newLine (level : Nat) : String := .ofList ('\n' :: List.replicate (2 * level) ' ')

mutual

/-- JSON text with one element a line, indented by two spaces a level. -/
def indented (level : Nat) : Value → String
  | .array items =>
    if items.isEmpty then
      "[]"
    else
      let separator := "," ++ newLine (level + 1)
      "[" ++ newLine (level + 1) ++ Text.join separator (indentedItems (level + 1) items)
        ++ newLine level ++ "]"
  | .object fields =>
    if fields.isEmpty then
      "\x7b\x7d"
    else
      let separator := "," ++ newLine (level + 1)
      "\x7b" ++ newLine (level + 1) ++ Text.join separator (indentedFields (level + 1) fields)
        ++ newLine level ++ "\x7d"
  | .null => "null"
  | .bool b => if b then "true" else "false"
  | .number n => n.text
  | .string s => quote s

def indentedItems (level : Nat) : List Value → List String
  | [] => []
  | v :: rest => indented level v :: indentedItems level rest

def indentedFields (level : Nat) : List (String × Value) → List String
  | [] => []
  | (k, v) :: rest => (quote k ++ ": " ++ indented level v) :: indentedFields level rest

end

def pretty (v : Value) : String := indented 0 v

end Value

end DataQuality.Json
