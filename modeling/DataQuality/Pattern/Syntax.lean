import DataQuality.Decimal.Read
import DataQuality.Pattern.Property
import DataQuality.Sql.Pattern
import DataQuality.Text.Letter

/-!
A reader of regular expressions (`Pattern.reader`), for programs that have no library at hand. What
the project proves holds for every reader, and nothing is proved about this one.

The syntax tree keeps what decides whether a pattern can be compiled: how deep it is nested and how
large its automaton becomes. There are no back-references and no look-around. The sizes are
estimates: the automaton of a class depends on its ranges, which are not kept.
-/

namespace DataQuality.Pattern

/-- A pattern. An atom carries the size of its automaton in bytes; a class also carries how deep its
brackets are nested. -/
inductive Tree
  | empty
  | flags
  | atom (size : Nat)
  | bracket (depth size : Nat)
  | repetition (inner : Tree) (least : Nat) (most : Option Nat)
  | group (capturing : Bool) (inner : Tree)
  | sequence (parts : List Tree)
  | choice (branches : List Tree)

/-- The flags that change what a pattern means: whether white space and comments are skipped, and
whether characters are those of Unicode. -/
structure Flags where
  verbose : Bool
  unicode : Bool

/-- The size of one state of an automaton. -/
def stateSize : Nat := 32

/-- The size of a large class of Unicode, such as the word characters. -/
def unicodeClassSize : Nat := 47000

def literalSize (c : Char) : Nat := c.utf8Size * stateSize

/-- Skips white space and comments where the flags say so. -/
def skipBlank (flags : Flags) (s : List Char) : List Char :=
  if flags.verbose then go s.length s else s
where
  go : Nat → List Char → List Char
    | 0, s => s
    | fuel + 1, s =>
      match s.dropWhile Text.isBlank with
      | '#' :: r => go fuel ((r.dropWhile (· != '\n')).drop 1)
      | r => r

def isHex (c : Char) : Bool :=
  Decimal.isDigit c || ('a' ≤ c && c ≤ 'f') || ('A' ≤ c && c ≤ 'F')

def hexDigitValue (c : Char) : Nat :=
  if Decimal.isDigit c then c.toNat - 48
  else if 'a' ≤ c then c.toNat - 87
  else c.toNat - 55

/-- The character with the code point that hexadecimal digits spell. -/
def charOfHex? (digits : List Char) : Option Char :=
  if digits.isEmpty || !digits.all isHex then
    none
  else
    let code := digits.foldl (fun n d => 16 * n + hexDigitValue d) 0
    if h : code.isValidChar then some (Char.ofNatAux code h) else none

/-- A part of a pattern that matches one character or one position. -/
inductive Piece
  | char (c : Char)
  | byte (code : Nat)
  | set (size : Nat) (negated : Bool)
  | position

/-- The digits of an escape by code point: in braces, or as many as the letter says. Two digits
stand for a byte. -/
def readHexEscape (count : Nat) (s : List Char) : Option (Piece × List Char) :=
  match s with
  | '\x7b' :: r => do
    let digits := r.takeWhile (· != '\x7d')
    match r.dropWhile (· != '\x7d') with
    | _ :: rest => do
      let c ← charOfHex? digits
      pure (.char c, rest)
    | [] => none
  | _ =>
    if s.length < count then
      none
    else do
      let c ← charOfHex? (s.take count)
      pure (if count = 2 && 128 ≤ c.toNat then .byte c.toNat else .char c, s.drop count)

/-- A class by its name: one letter, or a name or `property=value` in braces. -/
def readPropertyEscape (negated : Bool) (s : List Char) : Option (Piece × List Char) :=
  match s with
  | '\x7b' :: r =>
    let body := r.takeWhile (· != '\x7d')
    match r.dropWhile (· != '\x7d') with
    | _ :: rest => if isNamed body then some (.set unicodeClassSize negated, rest) else none
    | [] => none
  | c :: r => if isPropertyName [c] then some (.set unicodeClassSize negated, r) else none
  | [] => none
where
  isNamed (body : List Char) : Bool :=
    match splitAt? body with
    | some (property, value) => isPropertyValue property value
    | none => isPropertyName body
  /-- Cuts `property != value`, `property:value` and `property=value`. -/
  splitAt? (body : List Char) : Option (List Char × List Char) :=
    let property := body.takeWhile fun c => c != ':' && c != '='
    match body.dropWhile fun c => c != ':' && c != '=' with
    | '=' :: value =>
      if property.getLast? == some '!' then
        some (property.dropLast, value)
      else
        some (property, value)
    | _ :: value => some (property, value)
    | [] => none

/-- The words that may stand in braces after `\b`. -/
def boundaryWords : List String := ["start", "end", "start-half", "end-half"]

/-- What may follow `\b`: a word in braces, or nothing. A repetition in braces is left alone. -/
def readBoundary (flags : Flags) (s : List Char) : Option (Piece × List Char) :=
  match s with
  | '\x7b' :: r =>
    match skipBlank flags r with
    | [] => none
    | c :: rest =>
      if c.isAlpha || c == '-' then
        let word := (c :: rest).takeWhile fun c => c.isAlpha || c == '-'
        match skipBlank flags ((c :: rest).dropWhile fun c => c.isAlpha || c == '-') with
        | '\x7d' :: rest =>
          if String.ofList word ∈ boundaryWords then some (.position, rest) else none
        | _ => none
      else
        some (.position, s)
  | _ => some (.position, s)

/-- What stands after a backslash. -/
def readEscape (flags : Flags) (s : List Char) : Option (Piece × List Char) :=
  match s with
  | [] => none
  | c :: r =>
    let negated := c.isUpper
    match c with
    | 'x' => readHexEscape 2 r
    | 'u' => readHexEscape 4 r
    | 'U' => readHexEscape 8 r
    | 'p' | 'P' => if flags.unicode then readPropertyEscape negated (skipBlank flags r) else none
    | 'd' => some (.set (if flags.unicode then 4500 else 64) false, r)
    | 'D' => some (.set (if flags.unicode then 11300 else 64) true, r)
    | 's' | 'S' => some (.set (if flags.unicode then 1900 else 64) negated, r)
    | 'w' | 'W' => some (.set (if flags.unicode then unicodeClassSize else 96) negated, r)
    | 'a' | 'f' | 't' | 'n' | 'r' | 'v' => some (.char '\n', r)
    | 'A' | 'z' | 'B' | '<' | '>' => some (.position, r)
    | 'b' => readBoundary flags r
    | _ => if c.toNat < 128 && !c.isAlphanum then some (.char c, r) else none

/-- Whether a piece can be part of an automaton that runs over texts: without Unicode it may match no
part of a character. -/
def Piece.isWhole (flags : Flags) : Piece → Bool
  | .set _ negated => flags.unicode || !negated
  | .byte _ => flags.unicode
  | _ => true

def Piece.tree (flags : Flags) (piece : Piece) : Option Tree :=
  if piece.isWhole flags then
    match piece with
    | .char c => some (.atom (literalSize c))
    | .byte code => some (.atom (literalSize (Char.ofNat code)))
    | .set size _ => some (.atom size)
    | .position => some (.atom stateSize)
  else
    none

/-- The code point of a piece that is a single character. -/
def Piece.code? : Piece → Option Nat
  | .char c => some c.toNat
  | .byte code => some code
  | _ => none

/-- The classes that are written `[:name:]` inside brackets. -/
def bracketClasses : List String :=
  ["alnum", "alpha", "ascii", "blank", "cntrl", "digit", "graph", "lower", "print", "punct",
   "space", "upper", "word", "xdigit"]

/-- A named class after its opening bracket. -/
def readBracketClass? (s : List Char) : Option (List Char) :=
  match s with
  | ':' :: r =>
    let r :=
      match r with
      | '^' :: r => r
      | _ => r
    let name := r.takeWhile (· != ':')
    match r.dropWhile (· != ':') with
    | ':' :: ']' :: rest => if String.ofList name ∈ bracketClasses then some rest else none
    | _ => none
  | _ => none

/-- One character or class inside brackets; positions cannot stand there. -/
def readItem (flags : Flags) (s : List Char) : Option (Piece × List Char) :=
  match s with
  | [] => none
  | '\\' :: r =>
    match readEscape flags r with
    | some (.position, _) => none
    | other => other
  | c :: r => some (.char c, r)

/-- The nesting and the size of what has been read of a class. -/
structure Bracket where
  depth : Nat
  size : Nat
  items : Nat

/-- What an open bracket has read: the operand so far, and whether it is negated. -/
structure OpenBracket where
  read : Bracket
  negated : Bool
  operators : Nat

/-- Opens a bracket: a caret negates it, hyphens and then a closing bracket at its start are plain
characters. -/
def openBracket (flags : Flags) (s : List Char) : Option (OpenBracket × List Char) :=
  let s := skipBlank flags s
  let (negated, s) :=
    match s with
    | '^' :: r => (true, skipBlank flags r)
    | _ => (false, s)
  let hyphens := hyphenCount s.length s
  let s := dropHyphens hyphens s
  let (closing, s) :=
    match s with
    | ']' :: r => if hyphens = 0 then (1, skipBlank flags r) else (0, s)
    | _ => (0, s)
  if s.isEmpty then
    none
  else
    let plain := hyphens + closing
    some (⟨⟨0, plain * stateSize, plain⟩, negated, 0⟩, s)
where
  hyphenCount : Nat → List Char → Nat
    | fuel + 1, '-' :: r => hyphenCount fuel (skipBlank flags r) + 1
    | _, _ => 0
  dropHyphens : Nat → List Char → List Char
    | count + 1, '-' :: r => dropHyphens count (skipBlank flags r)
    | _, s => s

namespace OpenBracket

def add (b : OpenBracket) (size : Nat) : OpenBracket :=
  { b with read := { b.read with size := b.read.size + size, items := b.read.items + 1 } }

/-- The nesting and the size of a bracket that ends. Several items, and each operator between them,
add a level. -/
def close (b : OpenBracket) : Nat × Nat :=
  let union := if 1 < b.read.items then 1 else 0
  (b.read.depth + union + b.operators + 1, b.read.size + if b.negated then 1000 else 0)

/-- Takes over a bracket that ends inside this one. -/
def addNested (b : OpenBracket) (nested : Nat × Nat) : OpenBracket :=
  let b := b.add nested.2
  { b with read := { b.read with depth := max b.read.depth nested.1 } }

end OpenBracket

/-- An item inside brackets, or a range between two characters. -/
def readRange (flags : Flags) (s : List Char) : Option (Nat × List Char) := do
  let (first, r) ← readItem flags s
  let afterFirst := skipBlank flags r
  match afterFirst with
  | [] => none
  | '-' :: r =>
    let next := skipBlank flags r
    if next.head? == some ']' || next.head? == some '-' then
      single first afterFirst
    else do
      let (last, rest) ← readItem flags next
      let low ← first.code?
      let high ← last.code?
      if high < low || (!flags.unicode && 128 ≤ high) then none else pure (3 * stateSize, rest)
  | _ => single first afterFirst
where
  single (piece : Piece) (rest : List Char) : Option (Nat × List Char) :=
    match piece with
    | .set size negated =>
      if negated && !flags.unicode then none else some (size, rest)
    | .byte _ => if flags.unicode then some (stateSize, rest) else none
    | .char c => if flags.unicode || c.toNat < 128 then some (stateSize, rest) else none
    | .position => none

/-- Reads a class after its opening bracket. The open brackets around the innermost one are kept in a
list. -/
def readClass (flags : Flags) : Nat → OpenBracket → List OpenBracket → List Char →
    Option (Tree × List Char)
  | 0, _, _, _ => none
  | fuel + 1, inner, outer, s =>
    match skipBlank flags s with
    | [] => none
    | ']' :: r =>
      if inner.negated && !flags.unicode then
        none
      else
        match outer with
        | [] =>
          let (depth, size) := inner.close
          some (.bracket depth size, r)
        | next :: rest => readClass flags fuel (next.addNested inner.close) rest r
    | '[' :: r =>
      match readBracketClass? r with
      | some rest => readClass flags fuel (inner.add (2 * stateSize)) outer rest
      | none =>
        match openBracket flags r with
        | some (opened, rest) => readClass flags fuel opened (inner :: outer) rest
        | none => none
    | '&' :: '&' :: r => readClass flags fuel (operator inner) outer r
    | '-' :: '-' :: r => readClass flags fuel (operator inner) outer r
    | '~' :: '~' :: r => readClass flags fuel (operator inner) outer r
    | r =>
      match readRange flags r with
      | some (size, rest) => readClass flags fuel (inner.add size) outer rest
      | none => none
where
  operator (b : OpenBracket) : OpenBracket := { b with operators := b.operators + 1 }

/-- What the reader keeps while it moves through a pattern. -/
structure State where
  flags : Flags
  names : List (List Char)

def treeOf (parts : List Tree) : Tree :=
  match parts.reverse with
  | [] => .empty
  | [part] => part
  | parts => .sequence parts

def closeBranches (parts : List Tree) (branches : List Tree) : Tree :=
  match branches with
  | [] => treeOf parts
  | branches => .choice (treeOf parts :: branches).reverse

/-- Flags between `(?` and the mark that ends them. -/
def readFlags : List Char → (seen : List Char) → (negated : Bool) → Flags →
    Option (Flags × Bool × List Char)
  | [], _, _, _ => none
  | c :: r, seen, negated, flags =>
    if c == ':' || c == ')' then
      if seen.head? == some '-' then none else some (flags, c == ':', r)
    else if seen.contains c then
      none
    else if c == '-' then
      readFlags r (c :: seen) true flags
    else if c == 'x' then
      readFlags r (c :: seen) negated { flags with verbose := !negated }
    else if c == 'u' then
      readFlags r (c :: seen) negated { flags with unicode := !negated }
    else if c ∈ ['i', 'm', 's', 'U', 'R'] then
      readFlags r (c :: seen) negated flags
    else
      none

/-- The name of a group, up to the mark that ends it. -/
def readGroupName (s : List Char) : Option (List Char × List Char) :=
  let name := s.takeWhile (· != '>')
  match name, s.dropWhile (· != '>') with
  | c :: r, _ :: rest =>
    if isFirst c && r.all isLater then some (name, rest) else none
  | _, _ => none
where
  isFirst (c : Char) : Bool := isLater c && !Decimal.isDigit c && c ∉ ['.', '[', ']']
  isLater (c : Char) : Bool :=
    (Text.isWord c && !isMark c) || c == '_' || c == '.' || c == '[' || c == ']'
  /-- The word characters that are neither letters nor digits, as far as they are common. -/
  isMark (c : Char) : Bool :=
    (0x300 ≤ c.toNat && c.toNat ≤ 0x36F) || c ∈ "‿⁀⁔︳︴﹍﹎﹏＿".toList
      || c.toNat == 0x200C || c.toNat == 0x200D

/-- What opens a group: the state inside of it, whether it captures, and whether it is only a change
of flags. -/
inductive Opening
  | group (capturing : Bool) (state : State)
  | flags (state : State)

def readOpening (state : State) (s : List Char) : Option (Opening × List Char) :=
  match skipBlank state.flags s with
  | '?' :: 'P' :: '<' :: r => named r
  | '?' :: '<' :: '=' :: _ => none
  | '?' :: '<' :: '!' :: _ => none
  | '?' :: '<' :: r => named r
  | '?' :: '=' :: _ => none
  | '?' :: '!' :: _ => none
  | '?' :: r => do
    let (flags, isGroup, rest) ← readFlags r [] false state.flags
    let state := { state with flags := flags }
    if isGroup then
      pure (.group false state, rest)
    else if r.head? == some ')' then
      none
    else
      pure (.flags state, rest)
  | r => some (.group true state, r)
where
  named (s : List Char) : Option (Opening × List Char) := do
    let (name, rest) ← readGroupName s
    if state.names.contains name then
      none
    else
      pure (.group true { state with names := name :: state.names }, rest)

/-- A number inside a counted repetition, with the white space around it. -/
def readCount (s : List Char) : Option (Nat × List Char) :=
  let s := s.dropWhile Text.isBlank
  let digits := s.takeWhile Decimal.isDigit
  let n := Decimal.ofDigits digits
  if digits.isEmpty || 0x100000000 ≤ n then
    none
  else
    some (n, (s.dropWhile Decimal.isDigit).dropWhile Text.isBlank)

/-- The bounds of a counted repetition after its opening brace. -/
def readBounds (flags : Flags) (s : List Char) : Option ((Nat × Option Nat) × List Char) := do
  let (least, r) ← readCount (skipBlank flags s)
  match r with
  | ',' :: r =>
    match skipBlank flags r with
    | '\x7d' :: rest => pure ((least, none), rest)
    | r => do
      let (most, r) ← readCount r
      match r with
      | '\x7d' :: rest => if most < least then none else pure ((least, some most), rest)
      | _ => none
  | '\x7d' :: rest => pure ((least, some least), rest)
  | _ => none

/-- Drops the question mark that makes a repetition reluctant. -/
def dropReluctant (flags : Flags) (s : List Char) : List Char :=
  match skipBlank flags s with
  | '?' :: r => r
  | r => r

/-- Puts a repetition around the part before it. -/
def repeatLast (least : Nat) (most : Option Nat) : List Tree → Option (List Tree)
  | [] => none
  | .empty :: _ => none
  | .flags :: _ => none
  | part :: parts => some (.repetition part least most :: parts)

/-- What stands at one place of a pattern. -/
inductive Mark
  | finish
  | choice
  | opening (opening : Opening)
  | part (tree : Tree)
  | repetition (least : Nat) (most : Option Nat)

/-- The mark at the head of a pattern and what follows it. A closing parenthesis is left in place. -/
def readMark (state : State) (s : List Char) : Option (Mark × List Char) :=
  match skipBlank state.flags s with
  | [] => some (.finish, [])
  | c :: r =>
    if c == ')' then
      some (.finish, c :: r)
    else if c == '|' then
      some (.choice, r)
    else if c == '(' then
      (readOpening state r).map fun (opening, r) => (.opening opening, r)
    else if c == '[' then do
      let (opened, r) ← openBracket state.flags r
      let (tree, r) ← readClass state.flags (r.length + 1) opened [] r
      pure (.part tree, r)
    else if c == '*' then
      some (.repetition 0 none, r)
    else if c == '+' then
      some (.repetition 1 none, r)
    else if c == '?' then
      some (.repetition 0 (some 1), r)
    else if c == '\x7b' then
      (readBounds state.flags r).map fun ((least, most), r) => (.repetition least most, r)
    else if c == '\\' then do
      let (piece, r) ← readEscape state.flags r
      let tree ← piece.tree state.flags
      pure (.part tree, r)
    else if c == '^' || c == '$' then
      some (.part (.atom stateSize), r)
    else if c == '.' then
      if state.flags.unicode then some (.part (.atom 1000), r) else none
    else
      some (.part (.atom (literalSize c)), r)

/-- Reads a pattern up to its end or to a closing parenthesis. -/
def readTree : Nat → State → (parts branches : List Tree) → List Char →
    Option (Tree × State × List Char)
  | 0, _, _, _, _ => none
  | fuel + 1, state, parts, branches, s =>
    match readMark state s with
    | none => none
    | some (.finish, r) => some (closeBranches parts branches, state, r)
    | some (.choice, r) => readTree fuel state [] (treeOf parts :: branches) r
    | some (.part tree, r) => readTree fuel state (tree :: parts) branches r
    | some (.opening (.flags state), r) => readTree fuel state (.flags :: parts) branches r
    | some (.opening (.group capturing inside), r) =>
      match readTree fuel inside [] [] r with
      | some (tree, after, ')' :: r) =>
        let state := { state with names := after.names }
        readTree fuel state (.group capturing tree :: parts) branches r
      | _ => none
    | some (.repetition least most, r) =>
      match repeatLast least most parts with
      | some parts => readTree fuel state parts branches (dropReluctant state.flags r)
      | none => none

/-- The syntax tree of a whole pattern. -/
def Tree.ofString? (pattern : String) : Option Tree :=
  let s := pattern.toList
  match readTree (2 * s.length + 2) ⟨⟨false, true⟩, []⟩ [] [] s with
  | some (tree, _, []) => some tree
  | _ => none

namespace Tree

mutual

/-- How many groups, repetitions, sequences, choices and brackets are nested. -/
def depth : Tree → Nat
  | .bracket depth _ => depth
  | .repetition inner _ _ => depth inner + 1
  | .group _ inner => depth inner + 1
  | .sequence parts => greatestDepth parts + 1
  | .choice branches => greatestDepth branches + 1
  | _ => 0

def greatestDepth : List Tree → Nat
  | [] => 0
  | t :: rest => max (depth t) (greatestDepth rest)

end

mutual

/-- The size of the automaton in bytes. A repetition is unrolled as often as it must or may occur. -/
def size : Tree → Nat
  | .empty | .flags => 0
  | .atom size => size
  | .bracket _ size => size + stateSize
  | .repetition inner least none => size inner * max least 1 + stateSize
  | .repetition inner least (some most) =>
    size inner * max most least + (most - least) * stateSize
  | .group capturing inner => size inner + if capturing then 2 * stateSize else 0
  | .sequence parts => totalSize parts
  | .choice branches => totalSize branches + 2 * stateSize

def totalSize : List Tree → Nat
  | [] => 0
  | t :: rest => size t + totalSize rest

end

end Tree

/-- The greatest nesting of a pattern. -/
def depthLimit : Nat := 250

/-- The greatest size of an automaton in bytes. -/
def sizeLimit : Nat := 10 * 1024 * 1024

/-- The reader of this module. It does not tell where a text stops to be a pattern. -/
def reader : Sql.PatternReader where
  refusal? pattern :=
    match Tree.ofString? pattern with
    | none => some "regex parse error"
    | some tree =>
      if depthLimit < tree.depth then
        some "regex parse error"
      else if sizeLimit < tree.size then
        some ("Compiled regex exceeds size limit of " ++ toString sizeLimit ++ " bytes.")
      else
        none

end DataQuality.Pattern
