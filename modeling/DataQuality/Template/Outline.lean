import DataQuality.Log
import DataQuality.Template.Syntax

/-!
Outlines of expressions and values, for messages that show what an operator was given.
-/

namespace DataQuality.Template

open Json (Value Number)

def MathOp.outline : MathOp → String
  | .add => "Add"
  | .sub => "Sub"
  | .mul => "Mul"
  | .div => "Div"
  | .mod => "Modulo"

def Comparison.outline : Comparison → String
  | .lt => "Lt"
  | .le => "Lte"
  | .gt => "Gt"
  | .ge => "Gte"
  | .eq => "Eq"
  | .ne => "NotEq"

/-- A name with its fields in braces. -/
def outlineFields (name : String) (fields : List (String × String)) : String :=
  name ++ " \x7b " ++ Text.join ", " (fields.map fun (field, text) => field ++ ": " ++ text)
    ++ " \x7d"

def outlineList (items : List String) : String := "[" ++ Text.join ", " items ++ "]"

def outlineMap (entries : List (String × String)) : String :=
  "\x7b" ++ Text.join ", " (entries.map fun (key, text) => Log.quoted key ++ ": " ++ text) ++ "\x7d"

mutual

def Expr.outline : Expr → String
  | .mk term negated filters =>
    outlineFields "Expr"
      [("val", term.outline), ("negated", Log.flag negated), ("filters", outlineList (outlineCalls filters))]

def Term.outline : Term → String
  | .text s => "String(" ++ Log.quoted s ++ ")"
  | .int n => "Int(" ++ toString n ++ ")"
  | .float x => "Float(" ++ Decimal.Layout.diagnostic.write x ++ ")"
  | .bool b => "Bool(" ++ Log.flag b ++ ")"
  | .path p => "Ident(" ++ Log.quoted p.text ++ ")"
  | .array items => "Array(" ++ outlineList (outlineExprs items) ++ ")"
  | .concat parts =>
    "StringConcat(" ++ outlineFields "StringConcat" [("values", outlineList (outlineTerms parts))] ++ ")"
  | .math op lhs rhs => "Math(" ++ outlineFields "MathExpr" (sides lhs.outline rhs.outline op.outline) ++ ")"
  | .compare op lhs rhs => logic lhs.outline rhs.outline op.outline
  | .both lhs rhs => logic lhs.outline rhs.outline "And"
  | .either lhs rhs => logic lhs.outline rhs.outline "Or"
  | .test p negated name args =>
    "Test(" ++ outlineFields "Test"
      [("ident", Log.quoted p.text), ("negated", Log.flag negated), ("name", Log.quoted name),
        ("args", outlineList (outlineExprs args))] ++ ")"
  | .member negated item container =>
    "In(" ++ outlineFields "In"
      [("lhs", item.outline), ("rhs", container.outline), ("negated", Log.flag negated)] ++ ")"
  | .call f => "FunctionCall(" ++ f.outline ++ ")"
where
  sides (lhs rhs op : String) : List (String × String) :=
    [("lhs", lhs), ("rhs", rhs), ("operator", op)]
  logic (lhs rhs op : String) : String :=
    "Logic(" ++ outlineFields "LogicExpr" (sides lhs rhs op) ++ ")"

def Call.outline : Call → String
  | .mk name args =>
    outlineFields "FunctionCall"
      [("name", Log.quoted name), ("args", outlineMap (outlineArgs args))]

def outlineExprs : List Expr → List String
  | [] => []
  | e :: rest => e.outline :: outlineExprs rest

def outlineTerms : List Term → List String
  | [] => []
  | t :: rest => t.outline :: outlineTerms rest

def outlineCalls : List Call → List String
  | [] => []
  | f :: rest => f.outline :: outlineCalls rest

def outlineArgs : List (String × Expr) → List (String × String)
  | [] => []
  | (name, e) :: rest => (name, e.outline) :: outlineArgs rest

end

mutual

def outlineValue : Value → String
  | .null => "Null"
  | .bool b => "Bool(" ++ Log.flag b ++ ")"
  | .number (.int n) => "Number(" ++ toString n ++ ")"
  | .number (.float x) => "Number(" ++ Decimal.Layout.diagnostic.write x ++ ")"
  | .string s => "String(" ++ Log.quoted s ++ ")"
  | .array items => "Array " ++ outlineList (outlineItems items)
  | .object fields => "Object " ++ outlineMap (outlineEntries fields)

def outlineItems : List Value → List String
  | [] => []
  | v :: rest => outlineValue v :: outlineItems rest

def outlineEntries : List (String × Value) → List (String × String)
  | [] => []
  | (key, v) :: rest => (key, outlineValue v) :: outlineEntries rest

end

end DataQuality.Template
