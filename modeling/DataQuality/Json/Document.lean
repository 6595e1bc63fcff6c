import DataQuality.Json.Reader
import DataQuality.Json.Conform

/-!
Reading JSON text by a shape. The text is checked against the shape while it is read, so that the
first fault in the order of the text is the one that is reported.
-/

namespace DataQuality.Json

/-- A number that is skipped: its form is checked, its size is not. -/
def skipNumber (s : List Char) : Except DecodeError (List Char) := do
  let whole := s.takeWhile Decimal.isDigit
  if whole.isEmpty || (whole.head? == some '0' && 1 < whole.length) then
    throw .invalidNumber
  let rest := s.dropWhile Decimal.isDigit
  let rest ←
    match rest with
    | '.' :: r =>
      if (r.head?.map Decimal.isDigit).getD false then
        pure (r.dropWhile Decimal.isDigit)
      else
        throw .invalidNumber
    | _ => pure rest
  match rest with
  | c :: r =>
    if c == 'e' || c == 'E' then
      let r :=
        match r with
        | '+' :: r => r
        | '-' :: r => r
        | _ => r
      if (r.head?.map Decimal.isDigit).getD false then
        pure (r.dropWhile Decimal.isDigit)
      else
        throw .invalidNumber
    else
      pure rest
  | [] => pure []

/-- What an open array or object waits for. -/
inductive Frame
  | list
  | object
  deriving DecidableEq

/-- Skips a value. The open arrays and objects are kept in a list, the innermost first; `comma` says
that an element has just ended. -/
def skip : Nat → (frames : List Frame) → (comma : Bool) → List Char →
    Except DecodeError (List Char)
  | 0, _, _, _ => throw (.unexpectedEnd "a value")
  | _ + 1, [], true, s => pure s
  | fuel + 1, frame :: frames, true, s =>
    match skipSpace s with
    | [] => throw (.unexpectedEnd (if frame = .list then "a list" else "an object"))
    | ',' :: r => before fuel frame frames r
    | c :: r =>
      if (c == ']' && frame = .list) || (c == '\x7d' && frame = .object) then
        skip fuel frames true r
      else
        throw (.expected (if frame = .list then "`,` or `]`" else "`,` or `\x7d`"))
  | fuel + 1, frames, false, s =>
    match skipSpace s with
    | [] => throw (.unexpectedEnd "a value")
    | '[' :: r =>
      match skipSpace r with
      | [] => throw (.unexpectedEnd "a list")
      | ']' :: r => skip fuel frames true r
      | r => before fuel .list frames r
    | '\x7b' :: r =>
      match skipSpace r with
      | [] => throw (.unexpectedEnd "an object")
      | '\x7d' :: r => skip fuel frames true r
      | r => before fuel .object frames r
    | '-' :: r => do skip fuel frames true (← skipNumber r)
    | c :: r =>
      if Decimal.isDigit c then do
        skip fuel frames true (← skipNumber (c :: r))
      else do
        let (_, r) ← readScalar c r
        skip fuel frames true r
where
  /-- Moves into the next element of the innermost open array or object. -/
  before (fuel : Nat) (frame : Frame) (frames : List Frame) (s : List Char) :
      Except DecodeError (List Char) :=
    match frame with
    | .list => skip fuel (.list :: frames) false s
    | .object =>
      match skipSpace s with
      | [] => throw (.unexpectedEnd "an object")
      | '"' :: r => do
        let (_, r) ← readString r
        skip fuel (.object :: frames) false (← readColon r)
      | _ => throw .keyMustBeString

def skipValue (s : List Char) : Except DecodeError (List Char) := skip (s.length + 1) [] false s

/-- Enters an array or an object. -/
def descend (depth : Nat) : Except DecodeError Nat :=
  if depth ≤ 1 then throw .tooDeep else pure (depth - 1)

/-- A value that is not of the wanted kind: what it is tells the error, unless its own text is at
fault. -/
def mismatch (wanted : String) (c : Char) (s : List Char) : DecodeError :=
  if c == '[' then
    .invalidType "sequence" wanted
  else if c == '\x7b' then
    .invalidType "map" wanted
  else
    match readScalar c s with
    | .ok (v, _) => .invalidType (found v) wanted
    | .error e => e

def readVariant (variants : List String) (s : List Char) :
    Except DecodeError (Value × List Char) := do
  let (name, r) ← readString s
  if name ∈ variants then pure (.string name, r) else throw (.unknownVariant name variants)

/-- A variant is written as a string, or as an object with one key and a null. -/
def readChoice (variants : List String) (depth : Nat) (s : List Char) :
    Except DecodeError (Value × List Char) :=
  match skipSpace s with
  | [] => throw (.unexpectedEnd "a value")
  | '"' :: r => readVariant variants r
  | '\x7b' :: r => do
    let _ ← descend depth
    match skipSpace r with
    | [] => throw (.unexpectedEnd "a value")
    | '"' :: r =>
      let (name, r) ← readVariant variants r
      let r ← readColon r
      let r ←
        match skipSpace r with
        | [] => throw (.unexpectedEnd "a value")
        | 'n' :: r => readWord ['u', 'l', 'l'] r
        | c :: r => throw (mismatch "unit" c r)
      match skipSpace r with
      | [] => throw (.unexpectedEnd "an object")
      | '\x7d' :: r => pure (name, r)
      | _ => throw (.expected "value")
    | c :: r => throw (mismatch "variant identifier" c r)
  | _ => throw (.expected "value")

/-- A field of a record together with the way to read its text. -/
structure TextReader where
  name : String
  presence : Presence
  read : (depth : Nat) → List Char → Except DecodeError (Value × List Char)

/-- The entries of a record that is written as an object, after its opening brace. -/
def readFields (readers : List TextReader) (depth : Nat) :
    Nat → Bool → List (String × Value) → List Char →
      Except DecodeError (List (String × Value) × List Char)
  | 0, _, _, _ => throw (.unexpectedEnd "an object")
  | fuel + 1, first, read, s => do
    match ← nextKey first s with
    | (.done, r) => pure (read.reverse, r)
    | (.element, r) =>
      let (key, r) ← readString r
      match readers.find? (·.name == key) with
      | some reader =>
        if Dict.hasKey key read then
          throw (.duplicateField key)
        else
          let r ← readColon r
          let (v, r) ← reader.read depth r
          readFields readers depth fuel false ((key, v) :: read) r
      | none =>
        let r ← readColon r
        let r ← skipValue r
        readFields readers depth fuel false read r

/-- The fields of a record that is written as an array, after its opening bracket. -/
def readPositions (wanted : String) (depth : Nat) : Nat → Bool → List TextReader → List Char →
    Except DecodeError (List (String × Value) × List Char)
  | _, first, [], s =>
    match skipSpace s with
    | [] => throw (.unexpectedEnd "a list")
    | ']' :: r => pure ([], r)
    | ',' :: r =>
      if !first && (skipSpace r).head? == some ']' then
        throw .trailingComma
      else
        throw .trailingCharacters
    | _ => throw .trailingCharacters
  | position, first, reader :: readers, s => do
    match ← nextItem first s with
    | (.done, _) =>
      if reader.presence = .defaulted then
        readPositions wanted depth (position + 1) first readers s
      else
        throw (.invalidLength position wanted)
    | (.element, r) =>
      let (v, r) ← reader.read depth r
      let (rest, r) ← readPositions wanted depth (position + 1) false readers r
      pure ((reader.name, v) :: rest, r)

mutual

def readShape : Shape → (depth : Nat) → List Char → Except DecodeError (Value × List Char)
  | .any, depth, s => readValue depth s
  | .nullable inner, depth, s =>
    match skipSpace s with
    | 'n' :: r => do pure (.null, ← readWord ['u', 'l', 'l'] r)
    | s => readShape inner depth s
  | .choice variants, depth, s => readChoice variants depth s
  | .sequence inner, depth, s =>
    match skipSpace s with
    | [] => throw (.unexpectedEnd "a value")
    | '[' :: r => do
      let depth ← descend depth
      let (items, r) ← readItems (fun s => readShape inner depth s) (r.length + 1) true r
      pure (.array items, r)
    | c :: r => throw (mismatch "a sequence" c r)
  | .dictionary inner, depth, s =>
    match skipSpace s with
    | [] => throw (.unexpectedEnd "a value")
    | '\x7b' :: r => do
      let depth ← descend depth
      let (entries, r) ← readEntries (fun s => readShape inner depth s) (r.length + 1) true r
      pure (.object (Dict.ofEntries entries), r)
    | c :: r => throw (mismatch "a map" c r)
  | .record name fields, depth, s =>
    match skipSpace s with
    | [] => throw (.unexpectedEnd "a value")
    | '\x7b' :: r => do
      let depth ← descend depth
      let (read, r) ← readFields (textReaders fields) depth (r.length + 1) true [] r
      match missing? fields read with
      | some e => throw e
      | none => pure (.object read, r)
    | '[' :: r => do
      let depth ← descend depth
      let (read, r) ←
        readPositions (recordOf name fields.length) depth 0 true (textReaders fields) r
      pure (.object read, r)
    | c :: r => throw (mismatch ("struct " ++ name) c r)
  | .text, _, s => scalar .text s
  | .flag, _, s => scalar .flag s
  | .real, _, s => scalar .real s
  | .natural, _, s => scalar .natural s
  | .timestamp, _, s => scalar .timestamp s
where
  scalar (shape : Shape) (s : List Char) : Except DecodeError (Value × List Char) :=
    match skipSpace s with
    | [] => throw (.unexpectedEnd "a value")
    | c :: r =>
      if c == '[' || c == '\x7b' then
        throw (mismatch shape.wanted c r)
      else do
        let (v, r) ← readScalar c r
        pure (← shape.ofScalar v, r)

def textReaders : List (String × Presence × Shape) → List TextReader
  | [] => []
  | (name, presence, shape) :: rest =>
    ⟨name, presence, readShape shape⟩ :: textReaders rest

end

/-- Reads a document of the given shape. -/
def Shape.read (shape : Shape) (s : String) : Except DecodeError Value :=
  atEnd (readShape shape depthLimit s.toList)

end DataQuality.Json
