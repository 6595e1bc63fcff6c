import DataQuality.Decimal.Read
import DataQuality.Json.Shape

/-!
Reading JSON text. The steps of the reader take the rest of the text and return what they read with
the text that follows it. Arrays and objects may be nested 127 deep.
-/

namespace DataQuality.Json

def isSpace (c : Char) : Bool := c == ' ' || c == '\n' || c == '\t' || c == '\r'

def skipSpace (s : List Char) : List Char := s.dropWhile isSpace

/-- How many arrays and objects may be open at once, plus one. -/
def depthLimit : Nat := 128

/-- The rest of one of the words `null`, `true`, `false` after its first letter. -/
def readWord : (word s : List Char) → Except DecodeError (List Char)
  | [], s => pure s
  | _ :: _, [] => throw (.unexpectedEnd "a value")
  | w :: ws, c :: cs => if w == c then readWord ws cs else throw (.expected "ident")

/-- A float from the leading digits of a decimal: they are scaled by powers of ten in floating-point
arithmetic, at most `10 ^ 308` at a time. -/
def scale (significand : Nat) (exponent : Int) : Option Float :=
  go (exponent.natAbs / 308 + 1) (Float.ofNat significand) exponent
where
  go : Nat → Float → Int → Option Float
    | 0, x, _ => some x
    | fuel + 1, x, exponent =>
      if exponent.natAbs ≤ 308 then
        let power := Float.ofScientific 1 false exponent.natAbs
        if 0 ≤ exponent then
          let y := x * power
          if y.isInf then none else some y
        else
          some (x / power)
      else if x == 0 then
        some x
      else if 0 ≤ exponent then
        none
      else
        go fuel (x / 1e308) (exponent + 308)

def signed (negative : Bool) (x : Float) : Float := if negative then -x else x

/-- The leading digits that fit into 64 bits, and the number of those left over. -/
def significand (digits : List Char) : Nat × Nat :=
  go 0 digits
where
  go (n : Nat) : List Char → Nat × Nat
    | [] => (n, 0)
    | c :: r =>
      let next := 10 * n + Decimal.digitValue c
      if next < 0x10000000000000000 then go next r else (n, (c :: r).length)

/-- The exponent of a number after the letter `e`. An exponent too great to matter makes the number
zero, or takes it out of range. -/
def readExponent (negative : Bool) (significand : Nat) (exponent : Int) (s : List Char) :
    Except DecodeError (Number × List Char) := do
  let (minus, s) :=
    match s with
    | '+' :: r => (false, r)
    | '-' :: r => (true, r)
    | _ => (false, s)
  let digits := s.takeWhile Decimal.isDigit
  if digits.isEmpty then
    throw (if s.isEmpty then .unexpectedEnd "a value" else .invalidNumber)
  let written := Decimal.ofDigits digits
  let rest := s.dropWhile Decimal.isDigit
  if 0x80000000 ≤ written then
    if significand != 0 && !minus then
      throw .numberOutOfRange
    else
      pure (.float (signed negative 0), rest)
  else
    let exponent := if minus then exponent - written else exponent + written
    match scale significand exponent with
    | some x => pure (.float (signed negative x), rest)
    | none => throw .numberOutOfRange

/-- A number after its sign. -/
def readNumber (negative : Bool) (s : List Char) : Except DecodeError (Number × List Char) := do
  let whole := s.takeWhile Decimal.isDigit
  let rest := s.dropWhile Decimal.isDigit
  if whole.isEmpty then
    throw (if s.isEmpty then .unexpectedEnd "a value" else .invalidNumber)
  if whole.head? == some '0' && 1 < whole.length then
    throw .invalidNumber
  match rest with
  | '.' :: r =>
    let places := r.takeWhile Decimal.isDigit
    let rest := r.dropWhile Decimal.isDigit
    if places.isEmpty then
      throw (if r.isEmpty then .unexpectedEnd "a value" else .invalidNumber)
    let (n, dropped) := significand (whole ++ places)
    finish n ((dropped : Int) - places.length) rest
  | _ =>
    let (n, dropped) := significand whole
    match dropped, rest with
    | 0, c :: _ =>
      if c == 'e' || c == 'E' then finish n 0 rest else pure (integer n, rest)
    | 0, [] => pure (integer n, rest)
    | _, _ => finish n dropped rest
where
  integer (n : Nat) : Number :=
    if negative then
      if n = 0 || 0x8000000000000000 < n then .float (-(Float.ofNat n)) else .int (-(n : Int))
    else
      .int n
  finish (n : Nat) (exponent : Int) (rest : List Char) : Except DecodeError (Number × List Char) :=
    match rest with
    | c :: r =>
      if c == 'e' || c == 'E' then
        readExponent negative n exponent r
      else
        scaled n exponent rest
    | [] => scaled n exponent rest
  scaled (n : Nat) (exponent : Int) (rest : List Char) : Except DecodeError (Number × List Char) :=
    match scale n exponent with
    | some x => pure (.float (signed negative x), rest)
    | none => throw .numberOutOfRange

def hexValue? (c : Char) : Option Nat :=
  if '0' ≤ c && c ≤ '9' then some (c.toNat - 48)
  else if 'a' ≤ c && c ≤ 'f' then some (c.toNat - 87)
  else if 'A' ≤ c && c ≤ 'F' then some (c.toNat - 55)
  else none

/-- Four hexadecimal digits. -/
def readHex (s : List Char) : Except DecodeError (Nat × List Char) :=
  match s with
  | a :: b :: c :: d :: r =>
    match [a, b, c, d].mapM hexValue? with
    | some digits => pure (digits.foldl (fun n d => 16 * n + d) 0, r)
    | none => throw .invalidEscape
  | _ => throw (.unexpectedEnd "a string")

/-- The character of an escape after its letter `u`. A character beyond 16 bits is written as two
escapes, the halves of a surrogate pair. -/
def readUnicode (s : List Char) : Except DecodeError (Char × List Char) := do
  let (n, s) ← readHex s
  if 0xDC00 ≤ n && n ≤ 0xDFFF then
    throw .loneSurrogate
  else if n < 0xD800 || 0xDBFF < n then
    pure (Char.ofNat n, s)
  else
    match s with
    | [] => throw (.unexpectedEnd "a string")
    | '\\' :: r =>
      match r with
      | [] => throw (.unexpectedEnd "a string")
      | 'u' :: r => do
        let (low, r) ← readHex r
        if low < 0xDC00 || 0xDFFF < low then
          throw .loneSurrogate
        else
          pure (Char.ofNat (0x10000 + (n - 0xD800) * 0x400 + (low - 0xDC00)), r)
      | _ => throw .unexpectedEndOfEscape
    | _ => throw .unexpectedEndOfEscape

/-- The rest of a string after its opening quote. -/
def readString (s : List Char) : Except DecodeError (String × List Char) :=
  go s.length [] s
where
  go : Nat → List Char → List Char → Except DecodeError (String × List Char)
    | _, read, '"' :: r => pure (.ofList read.reverse, r)
    | fuel + 1, read, '\\' :: c :: r =>
      match c with
      | '"' => go fuel ('"' :: read) r
      | '\\' => go fuel ('\\' :: read) r
      | '/' => go fuel ('/' :: read) r
      | 'b' => go fuel ('\x08' :: read) r
      | 'f' => go fuel ('\x0c' :: read) r
      | 'n' => go fuel ('\n' :: read) r
      | 'r' => go fuel ('\r' :: read) r
      | 't' => go fuel ('\t' :: read) r
      | 'u' => do
        let (c, r) ← readUnicode r
        go fuel (c :: read) r
      | _ => throw .invalidEscape
    | fuel + 1, read, c :: r =>
      if c == '\\' then
        throw (.unexpectedEnd "a string")
      else if c.toNat < 32 then
        throw .controlCharacter
      else
        go fuel (c :: read) r
    | _, _, _ => throw (.unexpectedEnd "a string")

/-- The scalar at the start of the text; arrays and objects are left to the caller. -/
def readScalar (c : Char) (s : List Char) : Except DecodeError (Value × List Char) :=
  match c with
  | 'n' => do pure (.null, ← readWord ['u', 'l', 'l'] s)
  | 't' => do pure (.bool true, ← readWord ['r', 'u', 'e'] s)
  | 'f' => do pure (.bool false, ← readWord ['a', 'l', 's', 'e'] s)
  | '"' => do
    let (text, r) ← readString s
    pure (.string text, r)
  | '-' => do
    let (n, r) ← readNumber true s
    pure (.number n, r)
  | c =>
    if Decimal.isDigit c then do
      let (n, r) ← readNumber false (c :: s)
      pure (.number n, r)
    else
      throw (.expected "value")

/-- The state of an array or an object before its next element: at its end, or before an element. -/
inductive Next
  | done
  | element

/-- Moves to the next element of an array. -/
def nextItem (first : Bool) (s : List Char) : Except DecodeError (Next × List Char) :=
  match skipSpace s with
  | [] => throw (.unexpectedEnd "a list")
  | ']' :: r => pure (.done, r)
  | c :: r =>
    if first then
      pure (.element, c :: r)
    else if c == ',' then
      match skipSpace r with
      | [] => throw (.unexpectedEnd "a value")
      | ']' :: _ => throw .trailingComma
      | r => pure (.element, r)
    else
      throw (.expected "`,` or `]`")

/-- Moves to the next key of an object and behind its opening quote. -/
def nextKey (first : Bool) (s : List Char) : Except DecodeError (Next × List Char) :=
  match skipSpace s with
  | [] => throw (.unexpectedEnd "an object")
  | '\x7d' :: r => pure (.done, r)
  | c :: r =>
    if first then
      if c == '"' then pure (.element, r) else throw .keyMustBeString
    else if c == ',' then
      match skipSpace r with
      | [] => throw (.unexpectedEnd "a value")
      | '"' :: r => pure (.element, r)
      | '\x7d' :: _ => throw .trailingComma
      | _ => throw .keyMustBeString
    else
      throw (.expected "`,` or `\x7d`")

/-- Moves behind the colon after a key. -/
def readColon (s : List Char) : Except DecodeError (List Char) :=
  match skipSpace s with
  | [] => throw (.unexpectedEnd "an object")
  | ':' :: r => pure r
  | _ => throw (.expected "`:`")

/-- Reads an array after its opening bracket, one element with each unit of fuel. -/
def readItems (element : List Char → Except DecodeError (Value × List Char)) :
    Nat → Bool → List Char → Except DecodeError (List Value × List Char)
  | 0, _, _ => throw (.unexpectedEnd "a list")
  | fuel + 1, first, s => do
    match ← nextItem first s with
    | (.done, r) => pure ([], r)
    | (.element, r) =>
      let (v, r) ← element r
      let (rest, r) ← readItems element fuel false r
      pure (v :: rest, r)

/-- Reads an object after its opening brace, one entry with each unit of fuel. -/
def readEntries (element : List Char → Except DecodeError (Value × List Char)) :
    Nat → Bool → List Char → Except DecodeError (List (String × Value) × List Char)
  | 0, _, _ => throw (.unexpectedEnd "an object")
  | fuel + 1, first, s => do
    match ← nextKey first s with
    | (.done, r) => pure ([], r)
    | (.element, r) =>
      let (key, r) ← readString r
      let r ← readColon r
      let (v, r) ← element r
      let (rest, r) ← readEntries element fuel false r
      pure ((key, v) :: rest, r)

/-- Reads any value. Of two entries with the same key the last one counts. -/
def readValue : (depth : Nat) → List Char → Except DecodeError (Value × List Char)
  | depth, s =>
    match skipSpace s with
    | [] => throw (.unexpectedEnd "a value")
    | c :: r =>
      if c == '[' || c == '\x7b' then
        match depth with
        | depth + 1 =>
          if depth = 0 then
            throw .tooDeep
          else if c == '[' then do
            let (items, r) ← readItems (readValue depth) (r.length + 1) true r
            pure (.array items, r)
          else do
            let (entries, r) ← readEntries (readValue depth) (r.length + 1) true r
            pure (.object (Dict.ofEntries entries), r)
        | 0 => throw .tooDeep
      else
        readScalar c r

/-- Checks that nothing but white space follows a document. -/
def atEnd {α : Type} (step : Except DecodeError (α × List Char)) : Except DecodeError α := do
  let (v, r) ← step
  if (skipSpace r).isEmpty then pure v else throw .trailingCharacters

/-- Reads a document of any shape. -/
def Value.read (s : String) : Except DecodeError Value :=
  atEnd (readValue depthLimit s.toList)

end DataQuality.Json
