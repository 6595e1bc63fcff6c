import DataQuality.Json.Printer
import DataQuality.Severity

/-!
Log events, the settings that select optional events, and the cut of long fields.
-/

namespace DataQuality.Log

inductive Level
  | trace
  | debug
  | info
  | warn
  | error
  deriving DecidableEq

namespace Level

def all : List Level := [.trace, .debug, .info, .warn, .error]

def text : Level → String
  | .trace => "TRACE"
  | .debug => "DEBUG"
  | .info => "INFO"
  | .warn => "WARN"
  | .error => "ERROR"

def lowerText : Level → String
  | .trace => "trace"
  | .debug => "debug"
  | .info => "info"
  | .warn => "warn"
  | .error => "error"

end Level

/-- An event with the texts of its fields. -/
structure Event where
  level : Level
  message : String
  fields : List (String × String)
  deriving DecidableEq

/-- Which optional events are written, and how long a statement may be in one. -/
structure Settings where
  sql : Bool
  rows : Bool
  jobStats : Bool
  maxFieldLength : Nat
  deriving DecidableEq

namespace Settings

def standard : Settings := ⟨false, false, true, 256⟩

def verbose : Settings := ⟨true, true, true, 4096⟩

def production : Settings := ⟨false, false, false, 128⟩

end Settings

/-- The nearest place between two characters at a byte index or before it. The search goes back byte
by byte, and finds nothing if it would have to go below zero. -/
def boundary? (s : String) (index : Nat) : Option s.Pos :=
  if h : (⟨index⟩ : String.Pos.Raw).IsValid s then
    some ⟨⟨index⟩, h⟩
  else
    match index with
    | 0 => none
    | below + 1 => boundary? s below

/-- A text of at most `budget` bytes as it is, a longer one cut between two characters, if there is a
place to cut it. -/
def truncate? (s : String) (budget : Nat) : Option String :=
  if Text.byteLength s.toList ≤ budget then
    some s
  else
    (boundary? s budget).map fun cut => (s.sliceTo cut).copy ++ "...(truncated)"

def truncate (s : String) (budget : Nat) : String := (truncate? s budget).getD s

/-- How a program that uses the library writes its log. -/
structure Output where
  level : Level
  libraryLevel : Level
  json : Bool
  directives : Option String

namespace Output

def standard : Output := ⟨.info, .debug, false, none⟩

def production : Output := ⟨.warn, .info, true, none⟩

def development : Output := ⟨.debug, .debug, false, none⟩

/-- The directives that select events by their origin and level. -/
def filter (o : Output) : String :=
  o.directives.getD (o.level.lowerText ++ ",sentinel_guard=" ++ o.libraryLevel.lowerText)

end Output

/-- The quoted form of a text in a diagnostic field. -/
def quoteChar (c : Char) : List Char :=
  if c == '"' then ['\\', '"']
  else if c == '\\' then ['\\', '\\']
  else if c == '\n' then ['\\', 'n']
  else if c == '\r' then ['\\', 'r']
  else if c == '\t' then ['\\', 't']
  else if c.toNat == 0 then ['\\', '0']
  else if isPlain c.toNat then [c]
  else '\\' :: 'u' :: '\x7b' :: Nat.toDigits 16 c.toNat ++ ['\x7d']
where
  /-- Control characters, joining marks, unusual spaces and private characters are written as
  numbers. -/
  isPlain (code : Nat) : Bool :=
    !(code < 32 || (0x7F ≤ code && code ≤ 0xA0) || code == 0xAD || (0x300 ≤ code && code ≤ 0x36F)
      || code == 0x1680 || (0x2000 ≤ code && code ≤ 0x200F) || (0x2028 ≤ code && code ≤ 0x202F)
      || (0x205F ≤ code && code ≤ 0x206F) || code == 0x3000 || (0xE000 ≤ code && code ≤ 0xF8FF)
      || code == 0xFEFF || (0xFFF0 ≤ code && code ≤ 0xFFFB) || 0xE0000 ≤ code)

def quoted (s : String) : String := .ofList ('"' :: s.toList.flatMap quoteChar ++ ['"'])

/-- The diagnostic form of a value that may be absent. -/
def optional {α : Type} (text : α → String) : Option α → String
  | some x => "Some(" ++ text x ++ ")"
  | none => "None"

def flag (b : Bool) : String := if b then "true" else "false"

end DataQuality.Log
