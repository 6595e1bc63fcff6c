import DataQuality.Error
import DataQuality.Template.Meaning
import DataQuality.Template.Parser
import DataQuality.Template.Residue
import DataQuality.Template.Scan

/-!
Rendering of templates. `renderNodes` gives the text of a syntax tree; `render` gives the text of a
template, and fails where a variable has no value or a placeholder is left in the result.
-/

namespace DataQuality.Template

open Json (Value)

/-- Whether rendering goes on after a node, or goes to the next round of the loop, or out of it. -/
inductive Flow
  | onward
  | next
  | leave
  deriving DecidableEq

/-- The text of a node, what later nodes can read, and where rendering goes on. -/
structure Progress where
  text : String
  scope : Scope
  flow : Flow

/-- The rounds of a loop over a value: keys and values. -/
def rounds (key : Option String) (name : String) (v : Value) : Outcome (List (String × Value)) :=
  match v, key with
  | .array items, none => pure (items.map fun item => ("", item))
  | .string s, none => pure (s.toList.map fun c => ("", .string c.toString))
  | .object fields, some _ => pure fields
  | .array _, some _ => throw (.noKeys name)
  | .string _, some _ => throw (.noKeys name)
  | .object _, none => throw (.needsKey name)
  | _, _ => throw (.notIterable name)

/-- The name of a container in messages. -/
def containerName : Term → Outcome String
  | .path p => pure p.text
  | .call f => pure f.name
  | .array _ => pure "an array literal"
  | term => throw (.noContainer term)

/-- Runs the rounds of a loop, each with no variables of its own. -/
def runRounds (body : Scope → Outcome Progress) (key : Option String) (name : String)
    (length : Nat) : (index : Nat) → List (String × Value) → Scope → Outcome Progress
  | _, [], s => pure ⟨"", s, .onward⟩
  | index, (k, v) :: rest, s => do
    let here ← body (s.enter ⟨Dict.empty, key, name, k, v, index, length⟩)
    let s := here.scope.exit
    if here.flow = .leave then
      pure ⟨here.text, s, .onward⟩
    else
      let more ← runRounds body key name length (index + 1) rest s
      pure { more with text := here.text ++ more.text }

/-- The text of a section that a filter is applied to. -/
def filterSection (f : Application) (text : String) : Outcome String :=
  if f.name = "safe" then
    pure text
  else
    match Filter.find? f.name with
    | none => throw (.unknown .filter f.name)
    | some run =>
      Application.within .filter f.name do
        match run (.string text) (← f.arguments) with
        | .ok v => pure (textOf v)
        | .error fault => throw (.filter fault)

mutual

def Node.render : Node → Scope → Outcome Progress
  | .text t, s => pure ⟨t, s, .onward⟩
  | .output e, s => do pure ⟨textOf (← e.value s), s, .onward⟩
  | .assign everywhere name e, s => do
    pure ⟨"", s.assign everywhere name (← e.value s), .onward⟩
  | .filtered f body, s => do
    let inside ← renderNodes body s
    pure { inside with text := ← filterSection (f.application inside.scope) inside.text }
  | .branch branches otherwise, s => renderBranches branches (renderNodes otherwise) s
  | .loop key name container body otherwise, s => do
    let label ← containerName container.term
    let items ← rounds key label (← container.value s)
    if items.isEmpty then
      renderNodes otherwise s
    else
      runRounds (renderNodes body) key name items.length 0 items s
  | .leave, s => pure ⟨"", s, .leave⟩
  | .next, s => pure ⟨"", s, .next⟩

/-- The nodes in order, up to one that leads out of them. -/
def renderNodes : List Node → Scope → Outcome Progress
  | [], s => pure ⟨"", s, .onward⟩
  | node :: rest, s => do
    let here ← node.render s
    if here.flow = .onward then
      let more ← renderNodes rest here.scope
      pure { more with text := here.text ++ more.text }
    else
      pure here

/-- The first branch whose condition holds. -/
def renderBranches (branches : List (Expr × List Node)) (otherwise : Scope → Outcome Progress)
    (s : Scope) : Outcome Progress :=
  match branches with
  | [] => otherwise s
  | (condition, body) :: rest => do
    if ← condition.holds s then
      renderNodes body s
    else
      renderBranches rest otherwise s

end

/-- The variable that a message says was not found. -/
def missingIn? : List Char → Option String
  | [] => none
  | c :: r => start? (c :: r) <|> missingIn? r
where
  start? (s : List Char) : Option String := do
    let r ← Text.afterLeading? "Variable \x60".toList s
    let (name, r) ← leadingName? r
    let r := r.dropWhile (· != '\x60')
    if (Text.afterLeading? "\x60 not found".toList r).isSome then
      pure (String.ofList name)
    else
      none

/-- How a fault is reported to the author of the rule. -/
def Fault.toError (rule : String) (fault : Fault) : Error :=
  let message := "Failed to render '__tera_one_off': " ++ fault.message
  match fault.missing? <|> missingIn? message.toList with
  | some name => .missingParameter rule [name]
  | none => .template rule message

/-- The error of a template without form. What a parser says about the place of the mistake is left
out: a fixed text stands for it. -/
def parseError (rule : String) : Error := .template rule "<parse error>"

/-- Whether a template has the form of one. -/
def checkSyntax (rule template : String) : Except Error Unit :=
  if (parse? template).isSome then pure () else throw (parseError rule)

/-- The variables of a template that the parameters leave without a value. -/
def unresolved (template : String) (params : Dict Value) : List String :=
  (freeNames template).filter fun name => ((params.find? name).map Value.isNull).getD true

/-- The text of a template without regard to placeholders that are left in it. -/
def renderText (rule template : String) (params : Dict Value) : Except Error String :=
  match parse? template with
  | none => throw (parseError rule)
  | some nodes =>
    match renderNodes nodes (.ofParams params) with
    | .ok progress => pure progress.text
    | .error fault => throw (fault.toError rule)

def render (rule template : String) (params : Dict Value) : Except Error String := do
  match unresolved template params with
  | [] =>
    let text ← renderText rule template params
    if hasMark text.toList then
      throw (.missingParameter rule (residue text.toList))
    else
      pure text
  | missing => throw (.missingParameter rule missing)

end DataQuality.Template
