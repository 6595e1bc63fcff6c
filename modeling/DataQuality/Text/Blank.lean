/-!
White space as Unicode defines it, trimming, and splitting into words. Texts are handled as lists of
characters, so that each function has a short law; the functions on `String` come last.
-/

namespace DataQuality.Text

/-- A character with the Unicode property White_Space. -/
def isBlank (c : Char) : Bool :=
  let code := c.toNat
  (9 ≤ code && code ≤ 13) || code == 32 || code == 0x85 || code == 0xA0 || code == 0x1680
    || (0x2000 ≤ code && code ≤ 0x200A) || code == 0x2028 || code == 0x2029 || code == 0x202F
    || code == 0x205F || code == 0x3000

/-- Removes from the end the longest run of characters that satisfy `p`. -/
def dropWhileEnd (p : Char → Bool) (s : List Char) : List Char :=
  (s.reverse.dropWhile p).reverse

def trimStart (s : List Char) : List Char := s.dropWhile isBlank

def trimEnd (s : List Char) : List Char := dropWhileEnd isBlank s

def trim (s : List Char) : List Char := trimEnd (trimStart s)

theorem getLast?_dropWhileEnd {p : Char → Bool} {s : List Char} {c : Char}
    (h : (dropWhileEnd p s).getLast? = some c) : p c = false := by
  rw [dropWhileEnd, List.getLast?_reverse] at h
  generalize s.reverse = t at h
  induction t with
  | nil => simp at h
  | cons x r ih =>
    by_cases hx : p x
    . exact ih (by simpa [List.dropWhile, hx] using h)
    . simp only [List.dropWhile, hx, List.head?_cons, Option.some.injEq] at h
      simpa [← h] using hx

/-- The maximal runs of characters without white space, in order. -/
def words (s : List Char) : List (List Char) :=
  go [] s
where
  flush (word : List Char) (rest : List (List Char)) : List (List Char) :=
    if word.isEmpty then rest else word.reverse :: rest
  go (word : List Char) : List Char → List (List Char)
    | [] => flush word []
    | c :: r => if isBlank c then flush word (go [] r) else go (c :: word) r

/-- Whether a text has a character other than white space. -/
def hasContent (s : String) : Bool := s.toList.any (!isBlank ·)

def stripped (s : String) : String := .ofList (trim s.toList)

end DataQuality.Text
