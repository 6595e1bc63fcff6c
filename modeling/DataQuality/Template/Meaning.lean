import DataQuality.Template.Scope

/-!
The meaning of expressions. An expression can be read as a value, as a condition or as a number, and
the three readings treat undefined variables, negation and filters differently.
-/

namespace DataQuality.Template

open Json (Value Number)

/-- The readings of an expression. A division by zero is no number, but no fault either. -/
structure Meaning where
  value : Outcome Value
  holds : Outcome Bool
  number : Outcome (Option Number)

/-- The readings of a term before filters and negation. `holds` is told whether the opposite is
asked for. -/
structure TermMeaning where
  value : Outcome Value
  holds : (negated : Bool) → Outcome Bool
  number : Outcome (Option Number)

/-- A filter or a function with what its arguments come to. -/
structure Application where
  name : String
  args : List (String × Outcome Value)

namespace Application

/-- The arguments by name; of two with the same name, the last counts. -/
def arguments (f : Application) : Outcome (Dict Value) :=
  f.args.foldrM
    (fun (name, value) found =>
      if found.hasKey name then pure found else do pure (found.insert name (← value)))
    Dict.empty

def argument? (name : String) (f : Application) : Option (Outcome Value) :=
  (f.args.reverse.find? (·.1 == name)).map (·.2)

/-- Reports a failure inside a call as the failure of the call. -/
def within {α : Type} (kind : CallKind) (name : String) : Outcome α → Outcome α
  | .ok a => .ok a
  | .error cause => .error (.inCall kind name (some cause))

/-- The value that a filter gives. Two filters are marks for the evaluation of variables and leave
values alone. -/
def filter (f : Application) (v : Value) : Outcome Value :=
  if f.name = "safe" || f.name = "default" then
    pure v
  else
    match Filter.find? f.name with
    | none => throw (.unknown .filter f.name)
    | some run =>
      within .filter f.name do
        match run v (← f.arguments) with
        | .ok v => pure v
        | .error fault => throw (.filter fault)

/-- A whole number from zero on. -/
def natArgument (args : Dict Value) (name label : String) (absent : Outcome Nat) : Outcome Nat :=
  match args.find? name with
  | none => absent
  | some v =>
    match v with
    | .number (.int n) => if 0 ≤ n then pure n.toNat else refuse v
    | _ => refuse v
where
  refuse (v : Value) : Outcome Nat :=
    throw (.unsupported
      ("Function \x60range\x60 received " ++ name ++ "=" ++ v.compact ++ " but \x60" ++ label
        ++ "\x60 can only be a number"))

/-- The whole numbers from a start, zero if there is none, up to below an end. -/
def range (args : Dict Value) : Outcome Value := do
  let start ← natArgument args "start" "start" (pure 0)
  let step ← natArgument args "step_by" "step" (pure 1)
  let stop ← natArgument args "end" "end"
    (throw (.unsupported "Function \x60range\x60 was called without a \x60end\x60 argument"))
  if stop < start then
    throw (.unsupported
      "Function \x60range\x60 was called with a \x60start\x60 argument greater than the \x60end\x60 one")
  else
    pure (.array ((List.range' start ((stop - start + step - 1) / step) step).map .nat))

/-- Fails with the message of the author of the template. -/
def raise (args : Dict Value) : Outcome Value :=
  match args.find? "message" with
  | some (.string message) => throw (.unsupported message)
  | some v =>
    throw (.unsupported
      ("Function \x60throw\x60 received message=" ++ v.compact
        ++ " but \x60message\x60 can only be a string"))
  | none =>
    throw (.unsupported "Function \x60throw\x60 was called without a \x60message\x60 argument")

/-- The value of a function. Left out are the functions that ask the system, `now`, `get_random` and
`get_env`: a template that calls them counts as one that calls an unknown function. -/
def call (f : Application) : Outcome Value :=
  if f.name = "range" then
    within .function f.name (do range (← f.arguments))
  else if f.name = "throw" then
    within .function f.name (do raise (← f.arguments))
  else
    throw (.unknown .function f.name)

end Application

/-- A result that a kind of machine numbers can hold. -/
def bounded (low high : Int) (kind lhs sign rhs : String) (n : Int) : Outcome (Option Number) :=
  if low ≤ n && n ≤ high then
    pure (some (.int n))
  else
    throw (.outOfBounds lhs sign rhs kind)

/-- A float, unless it is not finite. -/
def finite? (x : Float) : Option Number := if x.isFinite then some (.float x) else none

/-- Two numbers that are both signed, or both not negative, are whole numbers of one kind. -/
def wholePair? (l r : Number) : Option (Int × Int × Bool) :=
  match l, r with
  | .int m, .int n =>
    if l.isSigned && r.isSigned then some (m, n, true)
    else if l.isUnsigned && r.isUnsigned then some (m, n, false)
    else none
  | _, _ => none

/-- Sums, differences and products of whole numbers of one kind are whole numbers of that kind. -/
def wholeOrFloat (sign : String) (whole : Int → Int → Int) (float : Float → Float → Float)
    (l r : Number) : Outcome (Option Number) :=
  match wholePair? l r with
  | some (m, n, true) =>
    bounded Number.leastInt Number.greatestSigned "i64" (toString m) sign (toString n) (whole m n)
  | some (m, n, false) =>
    bounded 0 Number.greatestInt "u64" (toString m) sign (toString n) (whole m n)
  | none => pure (finite? (float l.toFloat r.toFloat))

def MathOp.apply (op : MathOp) (lhs rhs : Expr) (l r : Number) : Outcome (Option Number) :=
  match op with
  | .add => wholeOrFloat "+" (· + ·) (· + ·) l r
  | .sub => wholeOrFloat "-" (· - ·) (· - ·) l r
  | .mul => wholeOrFloat "x" (· * ·) (· * ·) l r
  | .div => pure (finite? (l.toFloat / r.toFloat))
  | .mod =>
    match wholePair? l r with
    | some (m, n, _) =>
      if n = 0 then throw (.zeroModulus lhs rhs) else pure (some (.int (m.tmod n)))
    | none => pure (finite? (Decimal.remainder l.toFloat r.toFloat))

def Comparison.ordered (op : Comparison) (x y : Float) : Bool :=
  match op with
  | .lt => x < y
  | .le => x ≤ y
  | .gt => x > y
  | .ge => x ≥ y
  | .eq => x == y
  | .ne => x != y

/-- Whether two values are equal, with numbers compared by size. A number and something else are
neither equal nor different. -/
def comparable? (l r : Value) : Option Bool :=
  match l, r with
  | .number m, .number n => some (m.toFloat == n.toFloat)
  | .number _, _ => none
  | _, .number _ => none
  | l, r => some (l == r)

def Comparison.holds (op : Comparison) (l r : Meaning) (negated : Bool) : Outcome Bool := do
  match op with
  | .eq | .ne =>
    match comparable? (← l.value) (← r.value) with
    | some same => pure (negated != (same == (op == .eq)))
    | none => pure false
  | _ =>
    match ← l.number, ← r.number with
    | some m, some n => pure (negated != op.ordered m.toFloat n.toFloat)
    | _, _ => throw .incomparable

/-- Whether a value is an element of an array, a part of a text or a key of an object. -/
def isMember (item container : Value) : Outcome Bool :=
  match container with
  | .array items => pure (items.contains item)
  | .string s =>
    match item with
    | .string part => pure (Text.occursIn part.toList s.toList)
    | v => throw (.notText v "string")
  | .object fields =>
    match item with
    | .string key => pure (Dict.hasKey key fields)
    | v => throw (.notText v "object")
  | _ => throw .noMembers

/-- The text of a value in a concatenation. -/
def concatText (origin name : String) : Value → Outcome String
  | .string s => pure s
  | .number n => pure (Value.number n).compact
  | _ => throw (.notConcatenable origin name)

def runTest (name : String) (found? : Option Value) (args : Outcome (List Value)) :
    Outcome Bool :=
  match Tester.find? name with
  | none => throw (.unknown .test name)
  | some test =>
    Application.within .test name do
      match test found? (← args) with
      | .ok b => pure b
      | .error fault => throw (.tester fault)

/-- The value of a path with its filters. Null and undefined variables take the default, if the first
filter gives one, and an undefined variable counts as false where its opposite is asked for. -/
def pathValue (found : Outcome Value) (negated : Bool) (filters : List Application) :
    Outcome Value := do
  let default? : Option (Outcome Value) :=
    match filters with
    | f :: _ =>
      if f.name = "default" then some ((f.argument? "value").getD (throw .noDefault)) else none
    | [] => none
  match found, default? with
  | .ok .null, some other => filtered (← other)
  | .error _, some other => filtered (← other)
  | .ok v, _ => filtered v
  | .error e, none => if negated then pure (.bool true) else throw e
where
  filtered (v : Value) : Outcome Value := do
    let v ← filters.foldlM (fun v f => f.filter v) v
    pure (if negated then .bool (!isTrue v) else v)

def otherValue (v : Outcome Value) (negated : Bool) (filters : List Application) :
    Outcome Value := do
  let v ← filters.foldlM (fun v f => f.filter v) (← v)
  pure (if negated then .bool (!isTrue v) else v)

def notNumeric (kind text : String) : Outcome (Option Number) := throw (.notNumeric kind text)

def quoteMark (text : String) : String := "\x60" ++ text ++ "\x60"

def Term.template : Term → String
  | .text s => "'" ++ s ++ "'"
  | .path p => p.text
  | _ => "unknown"

mutual

def Expr.meaning (s : Scope) : Expr → Meaning
  | .mk term negated filters =>
    let m := term.meaning s
    let filters := applications s filters
    let value :=
      match term with
      | .path _ => pathValue m.value negated filters
      | .compare _ _ _ | .both _ _ | .either _ _ =>
        otherValue (do pure (.bool (← m.holds negated))) negated filters
      | _ => otherValue m.value negated filters
    { value
      holds :=
        match term with
        | .path _ =>
          match value with
          | .ok v => pure (isTrue v)
          | .error _ => pure false
        | .concat _ => do pure (isTrue (← value))
        | _ => m.holds negated
      number :=
        if filters.isEmpty then
          m.number
        else do
          match ← value with
          | .number n => pure (some n)
          | _ => throw .noNumber }

def Term.meaning (s : Scope) : Term → TermMeaning
  | .text t =>
    { value := pure (.string t)
      holds := fun negated => pure (negated != !t.isEmpty)
      number := notNumeric "string" (quoteMark t) }
  | .int n => ofNumber (.int n)
  | .float x => ofNumber (.float x)
  | .bool b =>
    { value := pure (.bool b)
      holds := fun negated => pure (negated != b)
      number := notNumeric "boolean" (quoteMark (Log.flag b)) }
  | .path p =>
    let found := s.read p
    { value := found
      holds := fun _ => throw .incomparable
      number := do
        match ← found with
        | .number n => pure (some n)
        | _ => throw (.notNumber p.text) }
  | .array items =>
    { value := do pure (.array (← values s items))
      holds := fun _ => throw .incomparable
      number := throw .incomparable }
  | .concat parts =>
    { value := do pure (.string (Text.join "" (← texts s parts)))
      holds := fun _ => throw .incomparable
      number := notNumeric "string concatenation" (Text.join " ~ " (parts.map Term.template)) }
  | .math op lhs rhs =>
    let l := lhs.meaning s
    let r := rhs.meaning s
    let number : Outcome (Option Number) := do
      match ← l.number, ← r.number with
      | some m, some n => op.apply lhs rhs m n
      | _, _ => pure none
    { value :=
        match number with
        | .ok (some n) => pure (.number n)
        | .ok none => pure (.string "NaN")
        | .error fault => throw fault.alone
      holds := fun negated => do
        match ← number with
        | some n => pure (negated != !n.isZero)
        | none => pure negated
      number }
  | .compare op lhs rhs =>
    ofCondition (op.holds (lhs.meaning s) (rhs.meaning s))
  | .both lhs rhs =>
    let l := (lhs.meaning s).holds
    let r := (rhs.meaning s).holds
    ofCondition fun negated => do
      let b ← if ← l then r else pure false
      pure (negated != b)
  | .either lhs rhs =>
    let l := (lhs.meaning s).holds
    let r := (rhs.meaning s).holds
    ofCondition fun negated => do
      let b ← if ← l then pure true else r
      pure (negated != b)
  | .test p unlike name args =>
    let outcome := runTest name (s.read p).toOption (values s args)
    let found : Outcome Bool := do pure (unlike != (← outcome))
    { value := do pure (.bool (← found))
      holds := fun negated => do pure (negated != (← found))
      number := throw (.notNumeric "test" name) }
  | .member unlike item container =>
    let l := (item.meaning s).value
    let r := (container.meaning s).value
    let found : Outcome Bool := do pure (unlike != (← isMember (← l) (← r)))
    { value := do pure (.bool (← found))
      holds := fun negated => do pure (negated != (← found))
      number := throw .incomparable }
  | .call f =>
    let outcome := (f.application s).call
    { value := outcome
      holds := fun negated => do
        match ← outcome with
        | .bool b => pure (negated != b)
        | _ => throw (.notCondition f.name)
      number := do
        match ← outcome with
        | .number n => pure (some n)
        | _ => throw (.notNumericCall f.name) }
where
  ofNumber (n : Number) : TermMeaning :=
    ⟨pure (.number n), fun negated => pure (negated != !n.isZero), pure (some n)⟩
  ofCondition (holds : Bool → Outcome Bool) : TermMeaning :=
    ⟨throw .incomparable, holds, throw .incomparable⟩

def Call.application (s : Scope) : Call → Application
  | .mk name args => ⟨name, arguments s args⟩

def applications (s : Scope) : List Call → List Application
  | [] => []
  | f :: rest => f.application s :: applications s rest

def arguments (s : Scope) : List (String × Expr) → List (String × Outcome Value)
  | [] => []
  | (name, e) :: rest => (name, (e.meaning s).value) :: arguments s rest

def values (s : Scope) : List Expr → Outcome (List Value)
  | [] => pure []
  | e :: rest => do
    let v ← (e.meaning s).value
    pure (v :: (← values s rest))

/-- The texts of the parts of a concatenation. -/
def texts (s : Scope) : List Term → Outcome (List String)
  | [] => pure []
  | part :: rest => do
    let v ← (part.meaning s).value
    let text ←
      match part with
      | .float x => pure (Decimal.plain x)
      | .path p => concatText "ident" p.text v
      | .call f => concatText "function call" f.name v
      | _ => concatText "" "" v
    pure (text :: (← texts s rest))

end

/-- The value of an expression in a scope. -/
def Expr.value (s : Scope) (e : Expr) : Outcome Value := (e.meaning s).value

/-- Whether an expression holds as a condition. -/
def Expr.holds (s : Scope) (e : Expr) : Outcome Bool := (e.meaning s).holds

end DataQuality.Template
