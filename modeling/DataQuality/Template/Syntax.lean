import DataQuality.Json.Value

/-!
The syntax trees of templates.
-/

namespace DataQuality.Template

mutual

/-- The way to a value: a name, then steps into objects and arrays. The text is the spelling in the
template. -/
inductive Path
  | mk (text head : String) (steps : List Step)

/-- A step by a fixed key or position, or by the value of another path. -/
inductive Step
  | key (name : String)
  | valueOf (path : Path)

end

def Path.text : Path → String
  | .mk text _ _ => text

def Path.head : Path → String
  | .mk _ head _ => head

def Path.steps : Path → List Step
  | .mk _ _ steps => steps

inductive MathOp
  | add
  | sub
  | mul
  | div
  | mod
  deriving DecidableEq

inductive Comparison
  | lt
  | le
  | gt
  | ge
  | eq
  | ne
  deriving DecidableEq

mutual

/-- A term with the filters that its value passes through. `negated` asks for the opposite truth
value. -/
inductive Expr
  | mk (term : Term) (negated : Bool) (filters : List Call)

inductive Term
  | text (s : String)
  | int (n : Int)
  | float (x : Float)
  | bool (b : Bool)
  | path (p : Path)
  | array (items : List Expr)
  | concat (parts : List Term)
  | math (op : MathOp) (lhs rhs : Expr)
  | compare (op : Comparison) (lhs rhs : Expr)
  | both (lhs rhs : Expr)
  | either (lhs rhs : Expr)
  | test (p : Path) (negated : Bool) (name : String) (args : List Expr)
  | member (negated : Bool) (item container : Expr)
  | call (f : Call)

/-- A name with named arguments: a filter or a function. -/
inductive Call
  | mk (name : String) (args : List (String × Expr))

end

instance : Inhabited Term := ⟨.bool false⟩

instance : Inhabited Expr := ⟨.mk default false []⟩

def Call.name : Call → String
  | .mk name _ => name

def Call.args : Call → List (String × Expr)
  | .mk _ args => args

def Expr.term : Expr → Term
  | .mk term _ _ => term

def Expr.negated : Expr → Bool
  | .mk _ negated _ => negated

def Expr.filters : Expr → List Call
  | .mk _ _ filters => filters

def Expr.ofTerm (term : Term) : Expr := .mk term false []

/-- The expression with the opposite truth value, if `negate` says so. -/
def Expr.negateIf (negate : Bool) : Expr → Expr
  | .mk term negated filters => .mk term (negate != negated) filters

inductive Node
  | text (s : String)
  | output (e : Expr)
  | assign (everywhere : Bool) (name : String) (value : Expr)
  | filtered (filter : Call) (body : List Node)
  | branch (branches : List (Expr × List Node)) (otherwise : List Node)
  | loop (key : Option String) (value : String) (container : Expr) (body otherwise : List Node)
  | leave
  | next

end DataQuality.Template
