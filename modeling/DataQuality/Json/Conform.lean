import DataQuality.Json.Shape

/-!
Reading a JSON value by a shape. The result is the value in the form that the shape fixes: numbers
where floats are wanted are floats, and a record that was written as an array is an object.
-/

namespace DataQuality.Json

/-- A field of a record together with the way to read its value. -/
structure FieldReader where
  name : String
  presence : Presence
  read : Value → Except DecodeError Value

/-- An object with one key and a null stands for the variant of that name. -/
def conformChoice (variants : List String) (v : Value) : Except DecodeError Value :=
  match v with
  | .string s => variant s
  | .object [(s, inner)] => do
    let name ← variant s
    match inner with
    | .null => pure name
    | other => throw (.invalidType (found other) "unit")
  | .object _ => throw (.invalidValue "map" "map with a single key")
  | other => throw (.invalidType (found other) "string or map")
where
  variant (s : String) : Except DecodeError Value :=
    if s ∈ variants then pure (.string s) else throw (.unknownVariant s variants)

/-- Reads the entries of an object in their order; entries that are no field are ignored. -/
def conformEntries (readers : List FieldReader) :
    List (String × Value) → Except DecodeError (List (String × Value))
  | [] => pure []
  | (k, v) :: rest =>
    match readers.find? (·.name == k) with
    | some reader => do
      let read ← reader.read v
      pure ((k, read) :: (← conformEntries readers rest))
    | none => conformEntries readers rest

/-- Reads a record that is written as an array of its fields, from a position on. -/
def conformItems (wanted : String) (position : Nat) :
    List FieldReader → List Value → Except DecodeError (List (String × Value))
  | [], [] => pure []
  | [], rest => throw (.invalidLength (position + rest.length) "fewer elements in array")
  | reader :: readers, v :: items => do
    let read ← reader.read v
    pure ((reader.name, read) :: (← conformItems wanted (position + 1) readers items))
  | reader :: readers, [] =>
    if reader.presence = .defaulted then
      conformItems wanted (position + 1) readers []
    else
      throw (.invalidLength position wanted)

mutual

def conform : Shape → Value → Except DecodeError Value
  | .nullable inner, v =>
    match v with
    | .null => pure .null
    | v => conform inner v
  | .choice variants, v => conformChoice variants v
  | .sequence inner, v =>
    match v with
    | .array items => do pure (.array (← items.mapM fun v => conform inner v))
    | other => throw (.invalidType (found other) "a sequence")
  | .dictionary inner, v =>
    match v with
    | .object fields => do
      pure (.object (← fields.mapM fun (k, v) => do pure (k, ← conform inner v)))
    | other => throw (.invalidType (found other) "a map")
  | .record name fields, v =>
    match v with
    | .object entries => do
      let read ← conformEntries (readers fields) entries
      match missing? fields read with
      | some e => throw e
      | none => pure (.object read)
    | .array items => do
      pure (.object (← conformItems (recordOf name fields.length) 0 (readers fields) items))
    | other => throw (.invalidType (found other) ("struct " ++ name))
  | .any, v => pure v
  | .text, v => Shape.ofScalar .text v
  | .flag, v => Shape.ofScalar .flag v
  | .real, v => Shape.ofScalar .real v
  | .natural, v => Shape.ofScalar .natural v
  | .timestamp, v => Shape.ofScalar .timestamp v

def readers : List (String × Presence × Shape) → List FieldReader
  | [] => []
  | (name, presence, shape) :: rest => ⟨name, presence, conform shape⟩ :: readers rest

end

end DataQuality.Json
