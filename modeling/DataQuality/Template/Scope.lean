import DataQuality.Template.Fault

/-!
What a template can read at one place: the variables of the loops around it, the variables that it
has set, and the parameters it was given.
-/

namespace DataQuality.Template

open Json (Value Number)

/-- A loop at one of its rounds. -/
structure Loop where
  /-- Variables set in this round. -/
  assigned : Dict Value
  keyName : Option String
  valueName : String
  key : String
  value : Value
  index : Nat
  length : Nat

/-- The loops from the innermost to the outermost, the variables set outside of loops, and the
parameters. -/
structure Scope where
  loops : List Loop
  assigned : Dict Value
  given : Dict Value

namespace Loop

/-- What a template can ask of a loop. -/
def position? (l : Loop) (head : String) (keys : List String) : Option Value :=
  if head = "loop" then
    match keys with
    | ["index"] => some (.nat (l.index + 1))
    | ["index0"] => some (.nat l.index)
    | ["first"] => some (.bool (l.index = 0))
    | ["last"] => some (.bool (l.index + 1 = l.length))
    | _ => none
  else
    none

def find? (l : Loop) (head : String) (keys : List String) : Option Value :=
  (l.assigned.find? head >>= (descend? · keys)) <|> l.position? head keys <|>
    if head = l.valueName then
      descend? l.value keys
    else if keys.isEmpty && l.keyName == some head then
      some (.string l.key)
    else
      none

/-- All variables of a loop; the loop's own names hide what was set under them. -/
def bindings (l : Loop) : Dict Value :=
  let bound := l.assigned.insert l.valueName l.value
  match l.keyName with
  | some name => bound.insert name (.string l.key)
  | none => bound

end Loop

namespace Scope

def ofParams (params : Dict Value) : Scope := ⟨[], [], params⟩

/-- The value under the keys of a variable: of the innermost loop that has one, else of a variable set
outside of loops, else of a parameter. -/
def find? (s : Scope) (head : String) (keys : List String) : Option Value :=
  s.loops.findSome? (·.find? head keys)
    <|> (s.assigned.find? head >>= (descend? · keys))
    <|> (s.given.find? head >>= (descend? · keys))

/-- All variables. What was set outside hides the loops, and outer loops hide inner ones. -/
def bindings (s : Scope) : Dict Value :=
  let visible := s.loops.foldl (fun visible l => visible.overlay l.bindings) Dict.empty
  s.given.overlay (visible.overlay s.assigned)

/-- Sets a variable of the innermost loop, or one outside of loops. -/
def assign (everywhere : Bool) (name : String) (v : Value) (s : Scope) : Scope :=
  match s.loops with
  | l :: outer =>
    if everywhere then
      { s with assigned := s.assigned.insert name v }
    else
      { s with loops := { l with assigned := l.assigned.insert name v } :: outer }
  | [] => { s with assigned := s.assigned.insert name v }

def enter (l : Loop) (s : Scope) : Scope := { s with loops := l :: s.loops }

def exit (s : Scope) : Scope := { s with loops := s.loops.tail }

mutual

/-- The value that a path leads to. -/
def read (s : Scope) : Path → Outcome Value
  | .mk text head steps => do
    if text = "__tera_context" then
      pure (.string (Value.object s.bindings).pretty)
    else
      match s.find? head (← keys s text steps) with
      | some v => pure v
      | none => throw (.notFound text head)

/-- The keys of the steps of a path. -/
def keys (s : Scope) (text : String) : List Step → Outcome (List String)
  | [] => pure []
  | step :: rest => do
    let here ← stepKeys s text step
    let more ← keys s text rest
    pure (here ++ more)

def stepKeys (s : Scope) (text : String) : Step → Outcome (List String)
  | .key name => pure [name]
  | .valueOf index =>
    match s.read index with
    | .ok (.string name) => pure (dottedKeys name)
    | .ok (.number n) => pure (dottedKeys (Value.number n).compact)
    | .ok _ => throw (.unusableIndex text index.text)
    | .error cause => throw (.inIndex text cause)

end

end Scope

end DataQuality.Template
