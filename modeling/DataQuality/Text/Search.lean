/-!
Finding, replacing and splitting at a fixed text.
-/

namespace DataQuality.Text

/-- What follows `pattern` at the start of a text, if it starts so. -/
def afterLeading? : (pattern s : List Char) → Option (List Char)
  | [], s => some s
  | _ :: _, [] => none
  | p :: ps, c :: cs => if p = c then afterLeading? ps cs else none

theorem afterLeading?_eq_some_iff {pattern s rest : List Char} :
    afterLeading? pattern s = some rest ↔ s = pattern ++ rest := by
  induction pattern generalizing s with
  | nil => simp [afterLeading?, eq_comm]
  | cons p ps ih =>
    cases s with
    | nil => simp [afterLeading?]
    | cons c cs =>
      by_cases h : p = c
      . simp [afterLeading?, h, ih]
      . simp [afterLeading?, h, Ne.symm h]

/-- Whether `pattern` occurs in a text as a run of neighbouring characters. -/
def occursIn (pattern : List Char) : List Char → Bool
  | [] => pattern.isEmpty
  | c :: r => pattern.isPrefixOf (c :: r) || occursIn pattern r

theorem occursIn_eq_true_iff {pattern s : List Char} :
    occursIn pattern s = true ↔ pattern <:+: s := by
  induction s with
  | nil => simp [occursIn]
  | cons c r ih => simp [occursIn, ih, List.infix_cons_iff]

def contains (s pattern : String) : Bool := occursIn pattern.toList s.toList

/-- Replaces every occurrence of a non-empty `pattern`, from the left and without overlap. The
counter `skip` stands for characters of an occurrence that has been replaced already. -/
def replaceFrom (pattern replacement : List Char) : (skip : Nat) → List Char → List Char
  | _, [] => []
  | skip + 1, _ :: r => replaceFrom pattern replacement skip r
  | 0, c :: r =>
    if pattern.isPrefixOf (c :: r) then
      replacement ++ replaceFrom pattern replacement (pattern.length - 1) r
    else
      c :: replaceFrom pattern replacement 0 r

/-- Replaces every occurrence of `pattern`; an empty pattern occurs before each character and at
the end. -/
def replace (s pattern replacement : String) : String :=
  if pattern.isEmpty then
    .ofList (s.toList.foldr (fun c r => replacement.toList ++ c :: r) replacement.toList)
  else
    .ofList (replaceFrom pattern.toList replacement.toList 0 s.toList)

/-- The pieces between the occurrences of a non-empty `pattern`. -/
def pieces (pattern : List Char) (s : List Char) : List (List Char) :=
  go [] 0 s
where
  go (piece : List Char) : (skip : Nat) → List Char → List (List Char)
    | _, [] => [piece.reverse]
    | skip + 1, _ :: r => go piece skip r
    | 0, c :: r =>
      if pattern.isPrefixOf (c :: r) then
        piece.reverse :: go [] (pattern.length - 1) r
      else
        go (c :: piece) 0 r

/-- The pieces between the occurrences of `pattern`; an empty pattern cuts at both ends and between
any two characters. -/
def split (s pattern : String) : List String :=
  if pattern.isEmpty then
    "" :: s.toList.map String.singleton ++ [""]
  else
    (pieces pattern.toList s.toList).map String.ofList

/-- Joins texts with `separator` between neighbours. -/
def join (separator : String) : List String → String
  | [] => ""
  | [s] => s
  | s :: r => s ++ separator ++ join separator r

/-- The text without the slashes at its end. -/
def dropSlashes (s : List Char) : List Char := (s.reverse.dropWhile (· == '/')).reverse

/-- The number of bytes of a text in UTF-8. -/
def byteLength (s : List Char) : Nat := s.foldr (fun c n => c.utf8Size + n) 0

@[simp]
theorem byteLength_nil : byteLength [] = 0 := rfl

@[simp]
theorem byteLength_cons (c : Char) (s : List Char) :
    byteLength (c :: s) = c.utf8Size + byteLength s := rfl

@[simp]
theorem byteLength_append (s t : List Char) :
    byteLength (s ++ t) = byteLength s + byteLength t := by
  induction s with
  | nil => simp
  | cons c r ih => simp [ih, Nat.add_assoc]

theorem byteLength_toList (s : String) : byteLength s.toList = s.utf8ByteSize := by
  rw [← String.ofList_toList (s := s), String.toList_ofList]
  induction s.toList with
  | nil => rfl
  | cons c r ih =>
    rw [byteLength_cons, ih, String.ofList_cons, String.utf8ByteSize_append,
      String.utf8ByteSize_singleton]

end DataQuality.Text
