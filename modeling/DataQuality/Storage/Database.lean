import DataQuality.Decimal.Layout

/-!
Relational databases as values: tables with named columns, whose rows are numbered from one on in
their first column.
-/

namespace DataQuality.Storage

inductive Cell
  | null
  | int (n : Int)
  | real (x : Float)
  | text (s : String)

namespace Cell

def ofBool (b : Bool) : Cell := .int (if b then 1 else 0)

def ofNat? (n : Option Nat) : Cell := (n.map fun n => .int n).getD .null

/-- A column keeps neither the sign of a zero nor a value that is not a number. -/
def ofFloat (x : Float) : Cell :=
  if x.isNaN then .null else .real (if x == 0 then 0 else x)

def ofFloat? (x : Option Float) : Cell := (x.map ofFloat).getD .null

def ofText? (s : Option String) : Cell := (s.map .text).getD .null

end Cell

/-- A table whose first column numbers the rows. `lastId` is the number of the last row. -/
structure Table where
  name : String
  columns : List String
  rows : List (List Cell)
  lastId : Nat

namespace Table

/-- Adds a row, given without its number. -/
def append (t : Table) (cells : List Cell) : Table :=
  { t with rows := t.rows ++ [.int (t.lastId + 1) :: cells], lastId := t.lastId + 1 }

end Table

structure Database where
  tables : List Table

namespace Database

def empty : Database := ⟨[]⟩

end Database

end DataQuality.Storage
