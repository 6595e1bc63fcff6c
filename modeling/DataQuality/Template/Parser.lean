import DataQuality.Decimal.Read
import DataQuality.Template.Scan
import DataQuality.Template.Syntax

/-!
The grammar of templates. A reader takes a text and returns what it read with the text that follows,
or nothing. Alternatives are tried in order, and the first that succeeds counts.
-/

namespace DataQuality.Template

/-- The white space of the grammar. -/
def isSpace (c : Char) : Bool := c == ' ' || c == '\t' || c == '\r' || c == '\n'

def skipSpace (s : List Char) : List Char := s.dropWhile isSpace

/-- The text after at least one space and all that follow it. -/
def afterSpaces? : List Char → Option (List Char)
  | [] => none
  | c :: r => if isSpace c then some (skipSpace r) else none

def lit? (word : String) (s : List Char) : Option (List Char) := Text.afterLeading? word.toList s

/-- A fixed text after white space. -/
def token? (word : String) (s : List Char) : Option (List Char) := lit? word (skipSpace s)

/-- A word that at least one space has to follow. -/
def word? (word : String) (s : List Char) : Option (List Char) :=
  match lit? word s with
  | some (c :: r) => if isSpace c then some (c :: r) else none
  | _ => none

def ident? (s : List Char) : Option (String × List Char) :=
  (leadingName? s).map fun (name, r) => (.ofList name, r)

/-- The digits of a whole number: a zero, or digits that do not start with one. -/
def wholeDigits? (s : List Char) : Option (List Char × List Char) :=
  match s with
  | '0' :: r => some (['0'], r)
  | _ =>
    let digits := s.takeWhile Decimal.isDigit
    if digits.isEmpty then none else some (digits, s.dropWhile Decimal.isDigit)

def sign (s : List Char) : Bool × List Char :=
  match s with
  | '-' :: r => (true, r)
  | r => (false, r)

/-- A whole number with its spelling. -/
def intText? (s : List Char) : Option (List Char × List Char) :=
  let (negative, r) := sign s
  (wholeDigits? r).map fun (digits, r) => (if negative then '-' :: digits else digits, r)

def intOf (text : List Char) : Int :=
  match text with
  | '-' :: digits => -(Decimal.ofDigits digits : Int)
  | digits => Decimal.ofDigits digits

/-- A whole number of 64 bits with sign. -/
def int? (s : List Char) : Option (Int × List Char) := do
  let (text, r) ← intText? s
  let n := intOf text
  if -0x8000000000000000 ≤ n && n < 0x8000000000000000 then pure (n, r) else none

def float? (s : List Char) : Option (Float × List Char) := do
  let (negative, r) := sign s
  let (whole, r) ← wholeDigits? r
  match r with
  | '.' :: r =>
    let places := r.takeWhile Decimal.isDigit
    if places.isEmpty then
      none
    else
      let x := Decimal.nearest (Decimal.ofDigits (whole ++ places)) (-places.length)
      pure (if negative then -x else x, r.dropWhile Decimal.isDigit)
  | _ => none

/-- A text between two quotes of the same kind; there are no escapes. -/
def string? (s : List Char) : Option (List Char × List Char) :=
  match s with
  | q :: r =>
    if q == '"' || q == '\'' || q == '\x60' then
      match r.dropWhile (· != q) with
      | _ :: rest => some (r.takeWhile (· != q), rest)
      | [] => none
    else
      none
  | [] => none

/-- What was read of a text: its beginning, up to the rest. -/
def spelling (s rest : List Char) : String := .ofList (s.take (s.length - rest.length))

mutual

/-- The steps after the name of a path: keys after points, and brackets. -/
def steps : Nat → List Char → List Step × List Char
  | 0, s => ([], s)
  | fuel + 1, s =>
    match s with
    | '.' :: r =>
      let key := r.takeWhile isNameChar
      if key.isEmpty then
        ([], s)
      else
        let (more, rest) := steps fuel (r.dropWhile isNameChar)
        (.key (.ofList key) :: more, rest)
    | '[' :: r =>
      match bracket fuel r with
      | some (step, ']' :: r) =>
        let (more, rest) := steps fuel r
        (step :: more, rest)
      | _ => ([], s)
    | _ => ([], s)

/-- The content of brackets: a position, a key in quotes, or a path. -/
def bracket : Nat → List Char → Option (Step × List Char)
  | 0, _ => none
  | fuel + 1, s =>
    match intText? s with
    | some (digits, r) => some (.key (.ofList digits), r)
    | none =>
      match string? s with
      | some (key, r) => some (.key (.ofList key), r)
      | none => (path? fuel s).map fun (p, r) => (.valueOf p, r)

def path? : Nat → List Char → Option (Path × List Char)
  | 0, _ => none
  | fuel + 1, s =>
    match ident? s with
    | some (head, r) =>
      let (more, rest) := steps fuel r
      some (.mk (spelling s rest) head more, rest)
    | none => none

end

/-- A reader applied as often as it succeeds. -/
def many {α : Type} (read? : List Char → Option (α × List Char)) :
    Nat → List Char → List α × List Char
  | 0, s => ([], s)
  | fuel + 1, s =>
    match read? s with
    | some (a, r) =>
      let (more, rest) := many read? fuel r
      (a :: more, rest)
    | none => ([], s)

/-- The first of several fixed texts that a text starts with, and what it stands for. -/
def oneOf? {α : Type} : List (String × α) → List Char → Option (α × List Char)
  | [], _ => none
  | (word, a) :: more, s =>
    match lit? word s with
    | some r => some (a, r)
    | none => oneOf? more s

def boolWords : List (String × Bool) :=
  [("true", true), ("false", false), ("True", true), ("False", false)]

def mathOps : List (String × MathOp) :=
  [("+", .add), ("-", .sub), ("*", .mul), ("/", .div), ("%", .mod)]

def comparisons : List (String × Comparison) :=
  [("<=", .le), (">=", .ge), (">", .gt), ("<", .lt), ("==", .eq), ("!=", .ne)]

/-- Combines operands from the left where `binds` holds of the operator; what is left over are the
operands between the other operators. -/
def foldTight {α β : Type} (binds : β → Bool) (combine : β → α → α → α) :
    α → List (β × α) → α × List (β × α)
  | first, [] => (first, [])
  | first, (op, next) :: more =>
    if binds op then
      foldTight binds combine (combine op first next) more
    else
      let (second, rest) := foldTight binds combine next more
      (first, (op, second) :: rest)

/-- Combines operands by operators of two levels, each from the left. -/
def foldLevels {α β : Type} (binds : β → Bool) (combine : β → α → α → α) (first : α)
    (more : List (β × α)) : α :=
  let (first, rest) := foldTight binds combine first more
  rest.foldl (fun lhs (op, rhs) => combine op lhs rhs) first

def isFactor : MathOp → Bool
  | .add | .sub => false
  | .mul | .div | .mod => true

def mathTerm (op : MathOp) (lhs rhs : Term) : Term := .math op (.ofTerm lhs) (.ofTerm rhs)

def mathExpr (op : MathOp) (lhs rhs : Expr) : Expr := .ofTerm (.math op lhs rhs)

/-- Joins two conditions; the flag says that both have to hold. -/
def joinExpr (isBoth : Bool) (lhs rhs : Expr) : Expr :=
  .ofTerm (if isBoth then .both lhs rhs else .either lhs rhs)

mutual

/-- Conditions joined by `and` and `or`, of which `and` binds tighter. -/
def logicExpr : Nat → List Char → Option (Expr × List Char)
  | 0, _ => none
  | fuel + 1, s => do
    let (first, r) ← logicVal fuel s
    let (more, rest) := many (fun s => do
      let s := skipSpace s
      let (isBoth, r) ←
        match word? "or" s with
        | some r => some (false, r)
        | none => (word? "and" s).map fun r => (true, r)
      let (next, rest) ← logicVal fuel (skipSpace r)
      pure ((isBoth, next), rest)) r.length r
    pure (foldLevels id joinExpr first more, rest)

/-- A condition: a membership, a comparison or a condition in parentheses, possibly negated. -/
def logicVal : Nat → List Char → Option (Expr × List Char)
  | 0, _ => none
  | fuel + 1, s =>
    let (negated, r) :=
      match word? "not" s with
      | some r => (true, skipSpace r)
      | none => (false, s)
    let plain :=
      match membership fuel r with
      | some found => some found
      | none => comparison fuel r
    match plain with
    | some (e, rest) => some (e.negateIf negated, rest)
    | none => do
      let r ← lit? "(" r
      let (e, r) ← logicExpr fuel (skipSpace r)
      let rest ← token? ")" r
      pure (e.negateIf negated, rest)

def membership : Nat → List Char → Option (Expr × List Char)
  | 0, _ => none
  | fuel + 1, s => do
    let (item, r) ←
      match textExpr fuel s with
      | some found => some found
      | none => filteredExpr fuel s
    let r := skipSpace r
    let (negated, r) :=
      match word? "not" r with
      | some r => (true, skipSpace r)
      | none => (false, r)
    let r ← lit? "in" r
    let (container, rest) ← containerExpr fuel (skipSpace r)
    pure (.ofTerm (.member negated item container), rest)

/-- What a membership looks into: a text, an array or a path. -/
def containerExpr : Nat → List Char → Option (Expr × List Char)
  | 0, _ => none
  | fuel + 1, s =>
    match textExpr fuel s with
    | some found => some found
    | none =>
      match arrayExpr fuel s with
      | some found => some found
      | none => (path? s.length s).map fun (p, r) => (.ofTerm (.path p), r)

/-- One comparison at most, between texts and numbers. -/
def comparison : Nat → List Char → Option (Expr × List Char)
  | 0, _ => none
  | fuel + 1, s => do
    let (lhs, r) ← operand fuel s
    let compared := do
      let (op, r) ← oneOf? comparisons (skipSpace r)
      let (rhs, rest) ← operand fuel (skipSpace r)
      pure (Expr.ofTerm (.compare op lhs rhs), rest)
    match compared with
    | some found => pure found
    | none => pure (lhs, r)

def operand : Nat → List Char → Option (Expr × List Char)
  | 0, _ => none
  | fuel + 1, s =>
    match textExpr fuel s with
    | some found => some found
    | none => do
      let (first, r) ← filteredExpr fuel s
      let (more, rest) := many (fun s => do
        let (op, r) ← oneOf? mathOps (skipSpace s)
        let (next, rest) ← filteredExpr fuel (skipSpace r)
        pure ((op, next), rest)) r.length r
      pure (foldLevels isFactor mathExpr first more, rest)

/-- A calculation, and the filters that its value passes through. -/
def filteredExpr : Nat → List Char → Option (Expr × List Char)
  | 0, _ => none
  | fuel + 1, s => do
    let (term, r) ← calculation fuel s
    let (filters, rest) := many (filter fuel) r.length r
    pure (.mk term false filters, rest)

def calculation : Nat → List Char → Option (Term × List Char)
  | 0, _ => none
  | fuel + 1, s => do
    let (first, r) ← factor fuel s
    let (more, rest) := many (fun s => do
      let (op, r) ← oneOf? mathOps (skipSpace s)
      let (next, rest) ← factor fuel (skipSpace r)
      pure ((op, next), rest)) r.length r
    pure (foldLevels isFactor mathTerm first more, rest)

/-- A calculation in parentheses, or a basic value. -/
def factor : Nat → List Char → Option (Term × List Char)
  | 0, _ => none
  | fuel + 1, s =>
    let inner := do
      let r ← lit? "(" s
      let (term, r) ← calculation fuel (skipSpace r)
      let rest ← token? ")" r
      pure (term, rest)
    match inner with
    | some found => some found
    | none => basicValue fuel s

def basicValue : Nat → List Char → Option (Term × List Char)
  | 0, _ => none
  | fuel + 1, s =>
    match oneOf? boolWords s with
    | some (b, r) => some (.bool b, r)
    | none =>
      match test fuel s with
      | some found => some found
      | none =>
        match call fuel s with
        | some (f, r) => some (.call f, r)
        | none =>
          match path? s.length s with
          | some (p, r) => some (.path p, r)
          | none =>
            match float? s with
            | some (x, r) => some (.float x, r)
            | none => (int? s).map fun (n, r) => (.int n, r)

/-- A test of a path: `p is name`, `p is not name`, with arguments in parentheses. -/
def test : Nat → List Char → Option (Term × List Char)
  | 0, _ => none
  | fuel + 1, s => do
    let (p, r) ← path? s.length s
    let r ← token? "is" r
    let opposite := do
      let r ← token? "not" r
      let (name, args, rest) ← testCall fuel (skipSpace r)
      pure (Term.test p true name args, rest)
    match opposite with
    | some found => pure found
    | none =>
      let (name, args, rest) ← testCall fuel (skipSpace r)
      pure (.test p false name args, rest)

def testCall : Nat → List Char → Option (String × List Expr × List Char)
  | 0, _ => none
  | fuel + 1, s => do
    let (name, r) ← ident? s
    let args := do
      let r ← token? "(" r
      let (first, r) ← argument fuel (skipSpace r)
      let (more, r) := many (fun s => do
        let r ← token? "," s
        argument fuel (skipSpace r)) r.length r
      let rest ← token? ")" r
      pure (first :: more, rest)
    match args with
    | some (args, rest) => pure (name, args, rest)
    | none => pure (name, [], r)

/-- A condition or an array. -/
def argument : Nat → List Char → Option (Expr × List Char)
  | 0, _ => none
  | fuel + 1, s =>
    match logicExpr fuel s with
    | some found => some found
    | none => arrayExpr fuel s

/-- A name with named arguments in parentheses. Of two arguments with the same name the last counts. -/
def call : Nat → List Char → Option (Call × List Char)
  | 0, _ => none
  | fuel + 1, s => do
    let (name, r) ← ident? s
    let r ← token? "(" r
    let r := skipSpace r
    let named := fun s => do
      let (key, r) ← ident? s
      let r ← token? "=" r
      let (value, rest) ← argument fuel (skipSpace r)
      pure ((key, value), rest)
    let (args, r) :=
      match named r with
      | some (first, r) =>
        let (more, r) := many (fun s => do
          let r ← token? "," s
          named (skipSpace r)) r.length r
        (first :: more, (token? "," r).getD r)
      | none => ([], r)
    let rest ← token? ")" r
    pure (.mk name args, rest)

/-- A filter after its bar. -/
def filter : Nat → List Char → Option (Call × List Char)
  | 0, _ => none
  | fuel + 1, s => do
    let r ← token? "|" s
    let r := skipSpace r
    match call fuel r with
    | some found => pure found
    | none =>
      let (name, rest) ← ident? r
      pure (.mk name [], rest)

def arrayExpr : Nat → List Char → Option (Expr × List Char)
  | 0, _ => none
  | fuel + 1, s => do
    let r ← lit? "[" s
    let r := skipSpace r
    let (items, r) :=
      match logicVal fuel r with
      | some (first, r) =>
        let (more, r) := many (fun s => do
          let r ← token? "," s
          logicVal fuel (skipSpace r)) r.length r
        (first :: more, r)
      | none => ([], r)
    let r := (token? "," r).getD r
    let r ← token? "]" r
    let (filters, rest) := many (filter fuel) r.length r
    pure (.mk (.array items) false filters, rest)

/-- A text or a chain of values joined by `~`, and the filters that it passes through. -/
def textExpr : Nat → List Char → Option (Expr × List Char)
  | 0, _ => none
  | fuel + 1, s => do
    let joined := do
      let (first, r) ← piece fuel s
      let (more, rest) := many (fun s => do
        let r ← token? "~" s
        piece fuel (skipSpace r)) r.length r
      if more.isEmpty then none else pure (Term.concat (first :: more), rest)
    let (term, r) ←
      match joined with
      | some found => some found
      | none => (string? s).map fun (text, r) => (.text (.ofList text), r)
    let (filters, rest) := many (filter fuel) r.length r
    pure (.mk term false filters, rest)

/-- A value that can be joined to a text. -/
def piece : Nat → List Char → Option (Term × List Char)
  | 0, _ => none
  | fuel + 1, s =>
    match call fuel s with
    | some (f, r) => some (.call f, r)
    | none =>
      match float? s with
      | some (x, r) => some (.float x, r)
      | none =>
        match int? s with
        | some (n, r) => some (.int n, r)
        | none =>
          match string? s with
          | some (text, r) => some (.text (.ofList text), r)
          | none => (path? s.length s).map fun (p, r) => (.path p, r)

end

/-- Enough fuel for an expression: each level of nesting passes through fewer than twenty readers and
takes at least one character. -/
def exprFuel (s : List Char) : Nat := 20 * (s.length + 1)

def condition? (s : List Char) : Option (Expr × List Char) := logicExpr (exprFuel s) s

def value? (s : List Char) : Option (Expr × List Char) := argument (exprFuel s) s

/-- What a loop can run over: a calculation or an array. -/
def container? (s : List Char) : Option (Expr × List Char) :=
  match filteredExpr (exprFuel s) s with
  | some found => some found
  | none => arrayExpr (exprFuel s) s

/-- A filter by its name, with or without arguments. -/
def filterName? (s : List Char) : Option (Call × List Char) :=
  match call (exprFuel s) s with
  | some found => some found
  | none => (ident? s).map fun (name, r) => (.mk name [], r)

/-- The start of a tag: the text inside, and whether a hyphen trims the text before it. -/
def tagStart? (mark : Char) (s : List Char) : Option (Bool × List Char) :=
  match s with
  | '\x7b' :: c :: r =>
    if c == mark then
      match r with
      | '-' :: r => some (true, r)
      | r => some (false, r)
    else
      none
  | _ => none

/-- The end of a tag after white space: the text behind, and whether a hyphen trims its start. -/
def tagEnd? (mark : Char) (s : List Char) : Option (Bool × List Char) :=
  match skipSpace s with
  | '-' :: c :: '\x7d' :: r => if c == mark then some (true, r) else none
  | c :: '\x7d' :: r => if c == mark then some (false, r) else none
  | _ => none

/-- A tag that holds one word: the hyphens at its ends, and the text behind. -/
def wordTag? (word : String) (s : List Char) : Option ((Bool × Bool) × List Char) := do
  let (left, r) ← tagStart? '%' s
  let r ← token? word r
  let (right, rest) ← tagEnd? '%' r
  pure ((left, right), rest)

/-- A tag that starts with a word: the hyphens at its ends, what stands after the word, and the text
behind. -/
def tag? {α : Type} (word : String) (read? : List Char → Option (α × List Char)) (s : List Char) :
    Option ((Bool × Bool) × α × List Char) := do
  let (left, r) ← tagStart? '%' s
  let r ← word? word (skipSpace r)
  let (a, r) ← read? (skipSpace r)
  let (right, rest) ← tagEnd? '%' r
  pure ((left, right), a, rest)

/-- The names of a loop and what it runs over. -/
def loopHeader? (s : List Char) : Option ((Option String × String × Expr) × List Char) := do
  let (first, r) ← ident? s
  let second := do
    let r ← lit? "," r
    ident? (skipSpace r)
  let (key, value, r) :=
    match second with
    | some (value, r) => (some first, value, r)
    | none => (none, first, r)
  let r ← lit? "in" (← afterSpaces? r)
  let (container, rest) ← container? (← afterSpaces? r)
  pure ((key, value, container), rest)

/-- The name and the value of an assignment. -/
def assignment? (s : List Char) : Option ((String × Expr) × List Char) := do
  let (name, r) ← ident? s
  let r ← token? "=" r
  let (value, rest) ← value? (skipSpace r)
  pure ((name, value), rest)

/-- The text up to the first place where `stops` holds, and what follows. -/
def splitWhere (stops : List Char → Bool) : List Char → List Char × List Char
  | [] => ([], [])
  | c :: r =>
    if stops (c :: r) then
      ([], c :: r)
    else
      let (before, rest) := splitWhere stops r
      (c :: before, rest)

def opensTag : List Char → Bool
  | '\x7b' :: c :: _ => c == '\x7b' || c == '%' || c == '#'
  | _ => false

def closesComment : List Char → Bool
  | '#' :: '\x7d' :: _ => true
  | '-' :: '#' :: '\x7d' :: _ => true
  | _ => false

/-- A comment, which holds at least one character: the hyphens at its ends, and the text behind. -/
def comment? (s : List Char) : Option ((Bool × Bool) × List Char) := do
  let (left, r) ← tagStart? '#' s
  match splitWhere closesComment r with
  | ([], _) => none
  | (_, '-' :: _ :: _ :: rest) => pure ((left, true), rest)
  | (_, _ :: _ :: rest) => pure ((left, false), rest)
  | _ => none

/-- A part of a template: text, or a tag with what its outer hyphens trim. A comment has no node. -/
inductive Part
  | text (s : List Char)
  | tag (left right : Bool) (node : Option Node)

/-- The nodes of a body. Text is trimmed next to the hyphens of its neighbours, and of the tags around
the body; text that becomes empty is left out. -/
def settle (trimStart trimEnd : Bool) : List Part → List Node
  | [] => []
  | .text s :: rest =>
    let next :=
      match rest with
      | [] => trimEnd
      | .tag left _ _ :: _ => left
      | .text _ :: _ => false
    let s := if trimStart then Text.trimStart s else s
    let s := if next then Text.trimEnd s else s
    let nodes := settle false trimEnd rest
    if s.isEmpty then nodes else .text (.ofList s) :: nodes
  | .tag _ right node :: rest =>
    let nodes := settle right trimEnd rest
    match node with
    | some node => node :: nodes
    | none => nodes

/-- A literal part of a template. Its text is trimmed next to the hyphens of its tags. -/
def literalNode (trimStart trimEnd : Bool) (s : List Char) : Node :=
  let s := if trimStart then Text.trimStart s else s
  let s := if trimEnd then Text.trimEnd s else s
  .text (.ofList s)

def isWordTag (word : String) (s : List Char) : Bool := (wordTag? word s).isSome

/-- A tag that stands for itself, if one opens here. -/
def simpleTag? (inLoop : Bool) (s : List Char) : Option (Part × List Char) :=
  match tagStart? '\x7b' s with
  | some (left, r) => do
    let (e, r) ← value? (skipSpace r)
    let (right, rest) ← tagEnd? '\x7d' r
    pure (.tag left right (some (.output e)), rest)
  | none =>
    match comment? s with
    | some ((left, right), rest) => some (.tag left right none, rest)
    | none =>
      match tag? "set" assignment? s with
      | some ((left, right), (name, value), rest) =>
        some (.tag left right (some (.assign false name value)), rest)
      | none =>
        match tag? "set_global" assignment? s with
        | some ((left, right), (name, value), rest) =>
          some (.tag left right (some (.assign true name value)), rest)
        | none =>
          match wordTag? "raw" s with
          | some ((left, innerStart), r) =>
            let (text, r) := splitWhere (isWordTag "endraw") r
            (wordTag? "endraw" r).map fun ((innerEnd, right), rest) =>
              (.tag left right (some (literalNode innerStart innerEnd text)), rest)
          | none =>
            if inLoop then
              match wordTag? "break" s with
              | some ((left, right), rest) => some (.tag left right (some .leave), rest)
              | none =>
                (wordTag? "continue" s).map fun ((left, right), rest) =>
                  (.tag left right (some .next), rest)
            else
              none

mutual

/-- Reads a body up to its end or to a tag that ends it. -/
def body : Nat → (inLoop : Bool) → List Char → Option (List Part × List Char)
  | 0, _, _ => none
  | fuel + 1, inLoop, s =>
    match splitWhere opensTag s with
    | ([], []) => some ([], [])
    | ([], s) =>
      match part fuel inLoop s with
      | some (found, r) => (body fuel inLoop r).map fun (more, rest) => (found :: more, rest)
      | none => some ([], s)
    | (text, r) => (body fuel inLoop r).map fun (more, rest) => (.text text :: more, rest)

/-- Reads a tag together with the body that it encloses. -/
def part : Nat → (inLoop : Bool) → List Char → Option (Part × List Char)
  | 0, _, _ => none
  | fuel + 1, inLoop, s =>
    match simpleTag? inLoop s with
    | some found => some found
    | none =>
      match tag? "if" condition? s with
      | some ((left, right), condition, r) => do
        let (branches, otherwise, endRight, rest) ← branches fuel inLoop condition right r
        pure (.tag left endRight (some (.branch branches otherwise)), rest)
      | none =>
        match tag? "for" loopHeader? s with
        | some ((left, right), (key, value, container), r) => do
          let (parts, r) ← body fuel true r
          let (otherwise, r) ←
            match wordTag? "else" r with
            | some (_, r) => body fuel inLoop r
            | none => some ([], r)
          let ((endLeft, endRight), rest) ← wordTag? "endfor" r
          let node := Node.loop key value container (settle right endLeft parts)
            (settle right endLeft otherwise)
          pure (.tag left endRight (some node), rest)
        | none => do
          let ((left, right), filter, r) ← tag? "filter" filterName? s
          let (parts, r) ← body fuel inLoop r
          let ((endLeft, endRight), rest) ← wordTag? "endfilter" r
          pure (.tag left endRight (some (.filtered filter (settle right endLeft parts))), rest)

/-- Reads the branches of a choice after the tag of the first condition, which trims the start of the
branch if `right` holds. -/
def branches : Nat → (inLoop : Bool) → Expr → (right : Bool) → List Char →
    Option (List (Expr × List Node) × List Node × Bool × List Char)
  | 0, _, _, _, _ => none
  | fuel + 1, inLoop, condition, right, s => do
    let (parts, r) ← body fuel inLoop s
    match tag? "elif" condition? r with
    | some ((left, nextRight), next, r) =>
      let (more, otherwise, endRight, rest) ← branches fuel inLoop next nextRight r
      pure ((condition, settle right left parts) :: more, otherwise, endRight, rest)
    | none =>
      match wordTag? "else" r with
      | some ((left, elseRight), r) =>
        let (otherwise, r) ← body fuel inLoop r
        let ((endLeft, endRight), rest) ← wordTag? "endif" r
        pure ([(condition, settle right left parts)], settle elseRight endLeft otherwise, endRight,
          rest)
      | none =>
        let ((left, endRight), rest) ← wordTag? "endif" r
        pure ([(condition, settle right left parts)], [], endRight, rest)

end

/-- The nodes of a whole template. Templates stand alone here, so the tags that refer to other
templates or define parts for them are left out: with `extends`, `include`, `import`, `block` or
`macro` a text counts as one without form. -/
def parse? (template : String) : Option (List Node) :=
  let s := template.toList
  match body (4 * s.length + 4) false s with
  | some (parts, []) => some (settle false false parts)
  | _ => none

end DataQuality.Template
