import DataQuality.Template.Render

/-!
Plain templates: text, variables, loops and conditions. `Plain.source` is the spelling of a plain
template and `Plain.eval` its text, with a variable of a loop known inside of the loop only.
-/

namespace DataQuality.Template

open Json (Value)

def isName : List Char → Bool
  | [] => false
  | c :: r => isNameStart c && r.all isNameChar

/-- A name in a template. The word `not` negates what follows it and is no name. -/
structure Name where
  text : String
  form : isName text.toList = true
  notWord : text ≠ "not"

/-- A text without braces. -/
structure PlainText where
  text : String
  form : '\x7b' ∉ text.toList ∧ '\x7d' ∉ text.toList

/-- A variable in a condition. -/
structure Literal where
  negated : Bool
  name : Name

/-- Literals joined by `and`. -/
structure Conjunction where
  first : Literal
  more : List Literal

/-- Literals joined by `and` and `or`, of which `and` binds tighter. -/
structure Condition where
  first : Conjunction
  more : List Conjunction

inductive Plain
  | done
  | text (s : PlainText) (rest : Plain)
  | output (v : Name) (rest : Plain)
  | loop (item list : Name) (body rest : Plain)
  | branch (condition : Condition) (body rest : Plain)

def Name.source (v : Name) : List Char := v.text.toList

def Literal.source (l : Literal) : List Char :=
  (if l.negated then "not ".toList else []) ++ l.name.source

def Conjunction.source (c : Conjunction) : List Char :=
  c.first.source ++ c.more.flatMap fun l => " and ".toList ++ l.source

def Condition.source (c : Condition) : List Char :=
  c.first.source ++ c.more.flatMap fun g => " or ".toList ++ g.source

def Conjunction.literals (c : Conjunction) : List Literal := c.first :: c.more

def Condition.literals (c : Condition) : List Literal :=
  c.first.literals ++ c.more.flatMap Conjunction.literals

/-- The variable that a condition starts with. -/
def Condition.head (c : Condition) : Name := c.first.first.name

/-- The values of the variables at one place of a template. -/
abbrev Env := String → Option Value

namespace Env

def ofParams (params : Dict Value) : Env := fun name => params.find? name

def bind (env : Env) (name : String) (v : Value) : Env :=
  fun other => if other = name then some v else env other

end Env

/-- A variable without a value is false. -/
def Literal.holds (env : Env) (l : Literal) : Bool :=
  l.negated != (env l.name.text).any isTrue

def Conjunction.holds (env : Env) (c : Conjunction) : Bool :=
  c.first.holds env && c.more.all (·.holds env)

def Condition.holds (env : Env) (c : Condition) : Bool :=
  c.first.holds env || c.more.any (·.holds env)

/-- What the evaluation of a plain template can stop at. -/
inductive Halt
  | unbound (v : Name)
  | notIterable (v : Name) (a : Value)

/-- What a loop runs over: the elements of an array, or the characters of a text. -/
def elements? : Value → Option (List Value)
  | .array items => some items
  | .string s => some (s.toList.map fun c => .string c.toString)
  | _ => none

/-- A variable has to have a value where its text is needed or a loop runs over it; null is one. -/
def Env.value (env : Env) (v : Name) : Except Halt Value :=
  match env v.text with
  | some a => pure a
  | none => throw (.unbound v)

def Env.elements (env : Env) (v : Name) : Except Halt (List Value) := do
  let a ← env.value v
  match elements? a with
  | some items => pure items
  | none => throw (.notIterable v a)

namespace Plain

def outputTag (v : Name) : List Char := "\x7b\x7b ".toList ++ v.source ++ " \x7d\x7d".toList

def statementTag (content : List Char) : List Char :=
  "\x7b% ".toList ++ content ++ " %\x7d".toList

def loopTag (item list : Name) : List Char :=
  statementTag ("for ".toList ++ item.source ++ " in ".toList ++ list.source)

def branchTag (c : Condition) : List Char := statementTag ("if ".toList ++ c.source)

def source : Plain → List Char
  | .done => []
  | .text s rest => s.text.toList ++ rest.source
  | .output v rest => outputTag v ++ rest.source
  | .loop item list body rest =>
    loopTag item list ++ body.source ++ statementTag "endfor".toList ++ rest.source
  | .branch condition body rest =>
    branchTag condition ++ body.source ++ statementTag "endif".toList ++ rest.source

def eval : Plain → Env → Except Halt String
  | .done, _ => pure ""
  | .text s rest, env => do
    let after ← rest.eval env
    pure (s.text ++ after)
  | .output v rest, env => do
    let a ← env.value v
    let after ← rest.eval env
    pure (textOf a ++ after)
  | .loop item list body rest, env => do
    let items ← env.elements list
    let texts ← items.mapM fun a => body.eval (env.bind item.text a)
    let after ← rest.eval env
    pure (String.join texts ++ after)
  | .branch condition body rest, env => do
    let here ← (if condition.holds env then body.eval env else pure "")
    let after ← rest.eval env
    pure (here ++ after)

/-- The variables that are read where no loop around the place binds them. -/
def openReads (bound : List String) : Plain → List String
  | .done => []
  | .text _ rest => rest.openReads bound
  | .output v rest => [v.text].filter (· ∉ bound) ++ rest.openReads bound
  | .loop item list body rest =>
    [list.text].filter (· ∉ bound) ++ body.openReads (item.text :: bound) ++ rest.openReads bound
  | .branch condition body rest =>
    (condition.literals.map (·.name.text)).filter (· ∉ bound)
      ++ body.openReads bound ++ rest.openReads bound

/-- Every name that is read. -/
def reads : Plain → List Name
  | .done => []
  | .text _ rest => rest.reads
  | .output v rest => v :: rest.reads
  | .loop _ list body rest => list :: body.reads ++ rest.reads
  | .branch condition body rest =>
    condition.literals.map (·.name) ++ body.reads ++ rest.reads

/-- The variables of outputs, and those that loops run over or conditions start with. -/
def heads : Plain → List String
  | .done => []
  | .text _ rest => rest.heads
  | .output v rest => v.text :: rest.heads
  | .loop _ list body rest => list.text :: body.heads ++ rest.heads
  | .branch condition body rest => condition.head.text :: body.heads ++ rest.heads

/-- The names that some loop binds. -/
def binders : Plain → List String
  | .done => []
  | .text _ rest => rest.binders
  | .output _ rest => rest.binders
  | .loop item _ body rest => item.text :: body.binders ++ rest.binders
  | .branch _ body rest => body.binders ++ rest.binders

/-- The variables without which a template is not rendered at all. -/
def Checked (t : Plain) (v : String) : Prop :=
  v ∈ t.heads ∧ v ∉ t.binders ∧ v ∉ reservedNames

theorem outputTag_append (v : Name) (r : List Char) :
    outputTag v ++ r
      =
    '\x7b' :: '\x7b' :: ' ' :: (v.source ++ ' ' :: '\x7d' :: '\x7d' :: r) := by
  simp [outputTag]

theorem statementTag_append (content r : List Char) :
    statementTag content ++ r
      =
    '\x7b' :: '%' :: ' ' :: (content ++ ' ' :: '%' :: '\x7d' :: r) := by
  simp [statementTag]

theorem loopTag_append (item list : Name) (r : List Char) :
    loopTag item list ++ r
      =
    '\x7b' :: '%' :: ' ' :: 'f' :: 'o' :: 'r' :: ' ' :: (item.source
      ++ ' ' :: 'i' :: 'n' :: ' ' :: (list.source ++ ' ' :: '%' :: '\x7d' :: r)) := by
  simp [loopTag, statementTag]

theorem branchTag_append (c : Condition) (r : List Char) :
    branchTag c ++ r
      =
    '\x7b' :: '%' :: ' ' :: 'i' :: 'f' :: ' ' :: (c.source ++ ' ' :: '%' :: '\x7d' :: r) := by
  simp [branchTag, statementTag]

end Plain

end DataQuality.Template
