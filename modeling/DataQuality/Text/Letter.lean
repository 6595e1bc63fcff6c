import DataQuality.Text.CaseTable
import DataQuality.Text.WordTable

/-!
Word characters, and upper and lower case by the full case mappings of Unicode.
-/

namespace DataQuality.Text

/-- A letter, a digit or an underscore of ASCII. -/
def isAsciiWord (c : Char) : Bool := c.isAlphanum || c == '_'

/-- A word character: letters, marks, decimal digits, connecting punctuation, join controls. -/
def isWord (c : Char) : Bool :=
  isAsciiWord c ||
    (128 ≤ c.toNat && wordRanges.any fun (first, last) => first ≤ c.toNat && c.toNat ≤ last)

def lowerChar (c : Char) : List Char :=
  if c.toNat < 128 then
    [c.toLower]
  else if c.toNat == 0x130 then
    ['i', Char.ofNat 0x307]
  else
    [((CaseRun.image? lowerRuns c.toNat).map Char.ofNat).getD c]

def upperChar (c : Char) : List Char :=
  if c.toNat < 128 then
    [c.toUpper]
  else
    match upperExpansions.lookup c.toNat with
    | some codes => codes.map Char.ofNat
    | none => [((CaseRun.image? upperRuns c.toNat).map Char.ofNat).getD c]

theorem lowerChar_of_ascii {c : Char} (h : c.toNat < 128) : lowerChar c = [c.toLower] := by
  simp [lowerChar, h]

/-- Whether a letter has another case. -/
def isCased (c : Char) : Bool := lowerChar c != [c] || upperChar c != [c]

/-- Characters that stand inside a word without ending it: apostrophes, points and marks. -/
def isCaseIgnorable (c : Char) : Bool :=
  c ∈ ['\'', '.', ':', '^', '¨', '·', '’', Char.ofNat 0xAD] || (0x300 ≤ c.toNat && c.toNat ≤ 0x36F)

/-- Lower case. A capital sigma that ends a word becomes the final form of the letter. -/
def lowerChars (s : List Char) : List Char :=
  go false s
where
  go (afterCased : Bool) : List Char → List Char
    | [] => []
    | c :: r =>
      let image :=
        if c == 'Σ' && afterCased && !((r.dropWhile isCaseIgnorable).head?.any isCased) then
          ['ς']
        else
          lowerChar c
      image ++ go (if isCaseIgnorable c then afterCased else isCased c) r

def upperChars (s : List Char) : List Char := s.flatMap upperChar

def lower (s : String) : String := .ofList (lowerChars s.toList)

def upper (s : String) : String := .ofList (upperChars s.toList)

end DataQuality.Text
