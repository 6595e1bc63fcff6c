import DataQuality.Dict
import DataQuality.Text.Blank
import DataQuality.Text.Letter
import DataQuality.Text.Search

/-!
A textual scan of templates for the variables that they read and the names that they bind, without
regard to where a name is bound. `freeNames` lists what is read and not bound anywhere.
-/

namespace DataQuality.Template

open Text (isBlank)

def isNameStart (c : Char) : Bool := c.isAlpha || c == '_'

def isNameChar (c : Char) : Bool := c.isAlphanum || c == '_'

/-- The name at the start of a text, with the text that follows it. -/
def leadingName? : List Char → Option (List Char × List Char)
  | [] => none
  | c :: r =>
    if isNameStart c then
      some (c :: r.takeWhile isNameChar, r.dropWhile isNameChar)
    else
      none

def skipBlank (s : List Char) : List Char := s.dropWhile isBlank

/-- The text after at least one blank and all that follow it. -/
def afterBlanks? : List Char → Option (List Char)
  | [] => none
  | c :: r => if isBlank c then some (skipBlank r) else none

/-- The text after a hyphen that may stand there. -/
def skipHyphen : List Char → List Char
  | '-' :: r => r
  | s => s

/-- What every start of the text yields, from the left. -/
def collect {α : Type} (read? : List Char → Option α) : List Char → List α
  | [] => []
  | c :: r =>
    match read? (c :: r) with
    | some a => a :: collect read? r
    | none => collect read? r

/-- The text inside an expression tag that opens here. -/
def afterOpening? (mark : Char) : List Char → Option (List Char)
  | '\x7b' :: c :: r => if c = mark then some (skipBlank (skipHyphen r)) else none
  | _ => none

/-- The name that opens an expression. -/
def expressionHead? (s : List Char) : Option (List Char) := do
  let inside ← afterOpening? '\x7b' s
  let (name, _) ← leadingName? inside
  pure name

/-- The names that a loop binds, and the text after them: one name, or two with a comma between. -/
def loopNames? (s : List Char) : Option (List (List Char) × List Char) := do
  let (first, rest) ← leadingName? s
  match skipBlank rest with
  | ',' :: r => do
    let (second, rest) ← leadingName? (skipBlank r)
    pure ([first, second], rest)
  | _ => pure ([first], rest)

/-- The names that a loop binds, and the text after its word `in`. -/
def loopHead? (s : List Char) : Option (List (List Char) × List Char) := do
  let r ← Text.afterLeading? ['f', 'o', 'r'] s
  let (names, r) ← loopNames? (← afterBlanks? r)
  let r ← Text.afterLeading? ['i', 'n'] (← afterBlanks? r)
  pure (names, r)

/-- The text after the words that introduce what a statement reads. -/
def afterIntroduction? (s : List Char) : Option (List Char) :=
  match loopHead? s with
  | some (_, r) => some r
  | none =>
    match Text.afterLeading? ['i', 'f'] s with
    | some r => some r
    | none => Text.afterLeading? ['e', 'l', 'i', 'f'] s

/-- The name that a condition or an iteration starts with, after a word `not` that may stand before
it. -/
def readName? (s : List Char) : Option (List Char) :=
  let negated := do
    let r ← Text.afterLeading? ['n', 'o', 't'] s
    let (name, _) ← leadingName? (← afterBlanks? r)
    pure name
  match negated with
  | some name => some name
  | none => (leadingName? s).map (·.1)

/-- The variable that a statement reads first. -/
def statementHead? (s : List Char) : Option (List Char) := do
  let inside ← afterOpening? '%' s
  let r ← afterIntroduction? inside
  readName? (← afterBlanks? r)

/-- The names that a loop or an assignment binds. -/
def boundNames? (s : List Char) : Option (List (List Char)) := do
  let inside ← afterOpening? '%' s
  match loopHead? inside with
  | some (names, r) =>
    if (r.head?.map Text.isWord).getD false then none else pure names
  | none => do
    let r ← Text.afterLeading? ['s', 'e', 't'] inside
    let r := (Text.afterLeading? "_global".toList r).getD r
    let (name, _) ← leadingName? (← afterBlanks? r)
    pure [name]

/-- Names with a meaning of their own, which no parameter has to supply. -/
def reservedNames : List String :=
  ["true", "false", "True", "False", "none", "None", "loop", "__tera_context"]

/-- The texts of a list in increasing order, each once. -/
def inOrder (names : List String) : List String :=
  (Dict.ofEntries (names.map fun name => (name, ()))).keys

/-- Every name that is bound somewhere in the template. -/
def bound (template : List Char) : List String :=
  (collect boundNames? template).flatten.map String.ofList

/-- Every name that opens an expression, or that a condition or an iteration starts with. -/
def read (template : List Char) : List String :=
  (collect expressionHead? template ++ collect statementHead? template).map String.ofList

/-- The names that a template reads and nowhere binds, in increasing order. -/
def freeNames (template : String) : List String :=
  let s := template.toList
  inOrder ((read s).filter fun name => !(bound s).contains name && !reservedNames.contains name)

end DataQuality.Template
