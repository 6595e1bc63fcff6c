import DataQuality.Json.Value

/-!
Flattening of nested values. The leaves of a value are its scalars and its empty arrays and objects;
each has a path from the root, and a flat row binds the joined path of each leaf to the leaf. Where
two leaves have the same joined path, the later one in the order of the document counts.
-/

namespace DataQuality

open Json (Value)

/-- One step from a value to one of its elements. -/
inductive PathStep
  | key (name : String)
  | index (i : Nat)
  deriving DecidableEq

namespace PathStep

def text : PathStep → String
  | .key name => "." ++ name
  | .index i => "[" ++ toString i ++ "]"

end PathStep

/-- The way from a row to a leaf: the key in the row, then the steps below it. -/
structure LeafPath where
  root : String
  steps : List PathStep
  deriving DecidableEq

namespace LeafPath

/-- The key of a leaf in the flat row. -/
def joined (p : LeafPath) : String := p.steps.foldl (fun s step => s ++ step.text) p.root

end LeafPath

mutual

/-- The leaves of a value in order, each with the steps that lead to it. -/
def leavesBelow : Value → List (List PathStep × Value)
  | .object fields =>
    if fields.isEmpty then [([], .object [])] else fieldLeaves fields
  | .array items =>
    if items.isEmpty then [([], .array [])] else itemLeaves 0 items
  | .null => [([], .null)]
  | .bool b => [([], .bool b)]
  | .number n => [([], .number n)]
  | .string s => [([], .string s)]

def fieldLeaves : List (String × Value) → List (List PathStep × Value)
  | [] => []
  | (k, v) :: rest =>
    ((leavesBelow v).map fun (steps, leaf) => (.key k :: steps, leaf)) ++ fieldLeaves rest

def itemLeaves (i : Nat) : List Value → List (List PathStep × Value)
  | [] => []
  | v :: rest =>
    ((leavesBelow v).map fun (steps, leaf) => (.index i :: steps, leaf)) ++ itemLeaves (i + 1) rest

end

/-- The leaves of a row in order. -/
def leaves (row : Dict Value) : List (LeafPath × Value) :=
  row.flatMap fun (k, v) => (leavesBelow v).map fun (steps, leaf) => (⟨k, steps⟩, leaf)

/-- The row that binds the joined path of each leaf to the leaf. -/
def flatten (row : Dict Value) : Dict Value :=
  Dict.ofEntries ((leaves row).map fun (path, leaf) => (path.joined, leaf))

end DataQuality
