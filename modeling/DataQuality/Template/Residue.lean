import DataQuality.Template.Scan

/-!
Placeholder marks that are left in a rendered text.
-/

namespace DataQuality.Template

open Text (isBlank)

/-- Whether a text holds a double opening or closing brace. -/
def hasMark (s : List Char) : Bool :=
  Text.occursIn ['\x7b', '\x7b'] s || Text.occursIn ['\x7d', '\x7d'] s

/-- The length of the end of a placeholder: white space and a hyphen that may stand before the
closing braces. -/
def closing? (s : List Char) : Option Nat :=
  let blanks := s.takeWhile isBlank
  match s.dropWhile isBlank with
  | '-' :: '\x7d' :: '\x7d' :: _ => some (blanks.length + 3)
  | '\x7d' :: '\x7d' :: _ => some (blanks.length + 2)
  | _ => none

/-- The shortest content on one line that the end of a placeholder follows, with the length of both. -/
def content? : List Char → Option (List Char × Nat)
  | [] => none
  | c :: r =>
    match closing? (c :: r) with
    | some length => some ([], length)
    | none =>
      if c = '\n' then
        none
      else
        (content? r).map fun (content, length) => (c :: content, length + 1)

/-- The content of a placeholder that opens here, with the length of the placeholder. -/
def placeholder? (s : List Char) : Option (List Char × Nat) :=
  match s with
  | '\x7b' :: '\x7b' :: r =>
    let inside := skipBlank (skipHyphen r)
    (content? inside).map fun (content, length) => (content, length + (s.length - inside.length))
  | _ => none

/-- The contents of the placeholders in a text, from the left and without overlap. -/
def placeholders (skip : Nat) : List Char → List (List Char)
  | [] => []
  | c :: r =>
    match skip with
    | skip + 1 => placeholders skip r
    | 0 =>
      match placeholder? (c :: r) with
      | some (content, length) => content :: placeholders (length - 1) r
      | none => placeholders 0 r

/-- What is said to be missing of a rendered text that holds a mark. -/
def residue (s : List Char) : List String :=
  match placeholders 0 s with
  | [] => ["unresolved template markers"]
  | found => found.map fun content => "unresolved '" ++ .ofList content ++ "'"

end DataQuality.Template
