import DataQuality.Text.Quoted

/-!
Comma-separated values. A cell that holds a comma, a quote or a line break stands in quotes, and a
quote inside it is written twice. `read?` is the reader of such documents.
-/

namespace DataQuality.Text.Csv

def needsQuotes (s : List Char) : Bool :=
  s.any fun c => c == ',' || c == '"' || c == '\n' || c == '\r'

def cell (s : List Char) : List Char := if needsQuotes s then Quoted.write '"' s else s

def cells : List (List Char) → List Char
  | [] => []
  | [s] => cell s
  | s :: rest => cell s ++ ',' :: cells rest

/-- A row on a line of its own. A row that would leave its line blank, which is one empty cell, is
written as a pair of quotes. -/
def row (r : List (List Char)) : List Char :=
  if (cells r).isEmpty then ['"', '"', '\n'] else cells r ++ ['\n']

def document (rows : List (List String)) : String :=
  .ofList (rows.flatMap fun r => row (r.map String.toList))

/-- Where a reader stands: at the start of a cell, in a cell without quotes, between quotes, or behind
a closing quote. -/
inductive Place
  | start
  | bare
  | quoted
  | closed
  deriving DecidableEq

/-- Reads on from a place in a cell, with what was read of the cell and the cells before it. A line
ends with a line feed, before which a carriage return may stand; a line without end is the last. -/
def readFrom (place : Place) (cell : List Char) (before : List (List Char)) :
    List Char → Option (List (List (List Char)))
  | [] =>
    if place = .quoted then none
    else if place = .start && before.isEmpty then some []
    else some [before ++ [cell]]
  | c :: r =>
    if place = .quoted then
      if c = '"' then readFrom .closed cell before r else readFrom .quoted (cell ++ [c]) before r
    else if c = ',' then
      readFrom .start [] (before ++ [cell]) r
    else if c = '\n' then
      (readFrom .start [] [] r).map ((before ++ [cell]) :: ·)
    else if c = '\r' then
      if r.head? = some '\n' then readFrom place cell before r else none
    else if c = '"' then
      match place with
      | .start => readFrom .quoted cell before r
      | .closed => readFrom .quoted (cell ++ ['"']) before r
      | _ => none
    else if place = .closed then
      none
    else
      readFrom .bare (cell ++ [c]) before r

/-- The rows of a document. -/
def read? (s : String) : Option (List (List String)) :=
  (readFrom .start [] [] s.toList).map fun rows => rows.map fun r => r.map String.ofList

end DataQuality.Text.Csv
