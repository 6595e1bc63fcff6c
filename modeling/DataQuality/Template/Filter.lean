import DataQuality.Template.Value
import DataQuality.Text.Blank
import DataQuality.Text.Letter

/-!
The filters of templates. A filter takes the value on its left and its named arguments.
-/

namespace DataQuality.Template

open Json (Value Number)

/-- What can be wrong with the value or an argument of a filter. -/
inductive FilterFault
  | wrongValue (filter : String) (got : Value) (wanted : String)
  | wrongArgument (filter argument : String) (got : Value) (wanted : String)
  | missingArgument (filter argument : String)
  | needsArgument (filter argument : String)
  | unsupported (message : String)

def FilterFault.message : FilterFault → String
  | .wrongValue filter got wanted =>
    "Filter `" ++ filter ++ "` was called on an incorrect value: got `" ++ got.compact
      ++ "` but expected a " ++ wanted
  | .wrongArgument filter argument got wanted =>
    "Filter `" ++ filter ++ "` received an incorrect type for arg `" ++ argument ++ "`: got `"
      ++ got.compact ++ "` but expected a " ++ wanted
  | .missingArgument filter argument =>
    "Filter `" ++ filter ++ "` expected an arg called `" ++ argument ++ "`"
  | .needsArgument filter argument =>
    "The `" ++ filter ++ "` filter has to have " ++ article argument ++ " `" ++ argument
      ++ "` argument"
  | .unsupported message => message
where
  article (argument : String) : String :=
    if argument ∈ ["n", "attribute", "key"] then "an" else "a"

abbrev FilterResult (α : Type) := Except FilterFault α

namespace Filter

def stringValue (filter : String) (v : Value) : FilterResult String :=
  match v with
  | .string s => pure s
  | v => throw (.wrongValue filter v "String")

def arrayValue (filter : String) (v : Value) : FilterResult (List Value) :=
  match v with
  | .array items => pure items
  | v => throw (.wrongValue filter v "Vec<Value>")

def stringArgument (filter argument : String) (v : Value) : FilterResult String :=
  match v with
  | .string s => pure s
  | v => throw (.wrongArgument filter argument v "String")

/-- An argument that has to be given. -/
def required (filter argument : String) (args : Dict Value) : FilterResult String :=
  match args.find? argument with
  | some v => stringArgument filter argument v
  | none => throw (.missingArgument filter argument)

def optionalString (filter argument : String) (absent : String) (args : Dict Value) :
    FilterResult String :=
  match args.find? argument with
  | some v => stringArgument filter argument v
  | none => pure absent

/-- A flag that is off unless it is given. -/
def optionalFlag (filter argument : String) (args : Dict Value) : FilterResult Bool :=
  match args.find? argument with
  | some (.bool b) => pure b
  | some v => throw (.wrongArgument filter argument v "bool")
  | none => pure false

/-- A whole number within limits. -/
def intArgument (filter argument wanted : String) (low high : Int) (v : Value) :
    FilterResult Int :=
  match v with
  | .number (.int n) =>
    if low ≤ n && n ≤ high then pure n else throw (.wrongArgument filter argument v wanted)
  | v => throw (.wrongArgument filter argument v wanted)

def floatArgument (filter argument : String) (v : Value) : FilterResult Float :=
  match v with
  | .number n => pure n.toFloat
  | v => throw (.wrongArgument filter argument v "f64")

def onString (filter : String) (f : List Char → List Char) (v : Value) : FilterResult Value := do
  pure (.string (.ofList (f (← stringValue filter v).toList)))

def capitalize : List Char → List Char
  | [] => []
  | c :: r => Text.upperChar c ++ Text.lowerChars r

/-- Capitalizes each run of word characters and apostrophes that begins and ends at the edge of a
word. -/
def title (s : List Char) : List Char :=
  go s.length none s
where
  isInner (c : Char) : Bool := Text.isWord c || c == '\''
  /-- The longest part of a run that ends at the edge of a word. -/
  cut (run : List Char) (next : Option Char) : List Char :=
    if (next.map Text.isWord).getD false then run else Text.dropWhileEnd (· == '\'') run
  go : Nat → (before : Option Char) → List Char → List Char
    | 0, _, s => s
    | _ + 1, _, [] => []
    | fuel + 1, before, c :: r =>
      let edge := (before.map Text.isWord).getD false != Text.isWord c
      let run := cut ((c :: r).takeWhile isInner) ((c :: r).dropWhile isInner).head?
      if edge && isInner c && !run.isEmpty then
        let rest := (c :: r).drop run.length
        let first := Text.upperChar c
        first ++ Text.lowerChars (run.drop 1) ++ go fuel (run.getLast?) rest
      else
        c :: go fuel (some c) r

def addSlashes (s : List Char) : List Char :=
  s.flatMap fun c => if c == '\\' || c == '"' || c == '\'' then ['\\', c] else [c]

/-- Writes the names of some characters in their place. -/
def escape (names : List (Char × String)) (s : List Char) : List Char :=
  s.flatMap fun c => ((names.lookup c).map String.toList).getD [c]

def xmlNames : List (Char × String) :=
  [('&', "&amp;"), ('<', "&lt;"), ('>', "&gt;"), ('"', "&quot;"), ('\'', "&apos;")]

def htmlNames : List (Char × String) :=
  [('&', "&amp;"), ('<', "&lt;"), ('>', "&gt;"), ('"', "&quot;"), ('\'', "&#x27;"), ('/', "&#x2F;")]

def lineBreaks (s : List Char) : List Char :=
  (Text.replace (Text.replace (.ofList s) "\r\n" "<br>") "\n" "<br>").toList

/-- What follows a tag of markup: a comment within one line, or whatever stands in angle brackets. -/
def afterTag? (s : List Char) : Option (List Char) :=
  match s with
  | '<' :: r => ((Text.afterLeading? "!--".toList r).bind afterComment?) <|> afterBracket? r
  | _ => none
where
  afterComment? : List Char → Option (List Char)
    | [] => none
    | c :: r =>
      match Text.afterLeading? "-->".toList (c :: r) with
      | some rest => some rest
      | none => if c == '\n' then none else afterComment? r
  afterBracket? : List Char → Option (List Char)
    | [] => none
    | c :: r => if c == '>' then some r else afterBracket? r

def stripTags (s : List Char) : List Char :=
  go s.length s
where
  go : Nat → List Char → List Char
    | _, [] => []
    | 0, s => s
    | fuel + 1, c :: r =>
      match afterTag? (c :: r) with
      | some rest => go fuel rest
      | none => c :: go fuel r

/-- Drops the white space between an angle bracket that closes and one that opens. -/
def spaceless (s : List Char) : List Char :=
  go none s
where
  after (c : Char) : Option (List Char) := if c == '>' then some [] else none
  /-- `gap` is the white space since the last bracket that closes, the latest character first. -/
  go (gap : Option (List Char)) : List Char → List Char
    | [] => (gap.getD []).reverse
    | c :: r =>
      match gap with
      | none => c :: go (after c) r
      | some blanks =>
        if Text.isBlank c then go (some (c :: blanks)) r
        else if c == '<' then c :: go none r
        else blanks.reverse ++ c :: go (after c) r

def replace (v : Value) (args : Dict Value) : FilterResult Value := do
  let s ← stringValue "replace" v
  let pattern ← required "replace" "from" args
  let replacement ← required "replace" "to" args
  pure (.string (Text.replace s pattern replacement))

/-- A separator, in which a backslash before `n` or `t` stands for a line break or a tab. -/
def separatorText (s : String) : String :=
  Text.replace (Text.replace s "\\n" "\n") "\\t" "\t"

/-- The lines of a text. A line break at the end begins no line, and a carriage return belongs to the
line break behind it. -/
def lines (s : List Char) : List (List Char) :=
  let pieces := Text.pieces ['\n'] s
  let ended := pieces.dropLast.map fun line =>
    if line.getLast? == some '\r' then line.dropLast else line
  match pieces.getLast? with
  | some [] | none => ended
  | some unended => ended ++ [unended]

def indent (v : Value) (args : Dict Value) : FilterResult Value := do
  let s ← stringValue "indent" v
  let margin ← optionalString "indent" "prefix" "    " args
  let first ← optionalFlag "indent" "first" args
  let blank ← optionalFlag "indent" "blank" args
  let indented := (lines s.toList).mapIdx fun i line =>
    let wanted := if i = 0 then first else blank || !(Text.trimStart line).isEmpty
    .ofList (if wanted then margin.toList ++ line else line)
  pure (.string (Text.join "\n" indented))

def split (v : Value) (args : Dict Value) : FilterResult Value := do
  let s ← stringValue "split" v
  let pattern ← required "split" "pat" args
  pure (Value.strings (Text.split s (separatorText pattern)))

/-- Joins the texts of an array. -/
def join (v : Value) (args : Dict Value) : FilterResult Value := do
  let items ← arrayValue "join" v
  let separator ← optionalString "truncate" "sep" "" args
  pure (.string (Text.join (separatorText separator) (items.map textOf)))

def length (v : Value) : FilterResult Value :=
  match v with
  | .array items => pure (.nat items.length)
  | .object fields => pure (.nat fields.length)
  | .string s => pure (.nat s.length)
  | _ =>
    throw (.unsupported
      "Filter `length` was used on a value that isn't an array, an object, or a string.")

def reverse (v : Value) : FilterResult Value :=
  match v with
  | .array items => pure (.array items.reverse)
  | .string s => pure (.string (.ofList s.toList.reverse))
  | v =>
    throw (.unsupported
      ("Filter `reverse` received an incorrect type for arg `value`: got `" ++ v.compact
        ++ "` but expected Array|String"))

def first (v : Value) : FilterResult Value := do
  pure ((← arrayValue "first" v).head?.getD (.string ""))

def last (v : Value) : FilterResult Value := do
  pure ((← arrayValue "last" v).getLast?.getD (.string ""))

def nth (v : Value) (args : Dict Value) : FilterResult Value := do
  let items ← arrayValue "nth" v
  if items.isEmpty then
    pure (.string "")
  else
    match args.find? "n" with
    | some n => do
      let i ← intArgument "nth" "n" "usize" 0 0xFFFFFFFFFFFFFFFF n
      pure ((items[i.toNat]?).getD (.string ""))
    | none => throw (.needsArgument "nth" "n")

/-- The position that a number stands for; negative numbers count from the end. -/
def sliceIndex (length : Nat) (x : Float) : Nat :=
  let x := if 0 ≤ x then x else Float.ofNat length + x
  x.toUInt64.toNat

def slice (v : Value) (args : Dict Value) : FilterResult Value := do
  let items ← arrayValue "slice" v
  if items.isEmpty then
    pure (.array [])
  else
    let index (argument : String) (absent : Nat) : FilterResult Nat :=
      match args.find? argument with
      | some n => do pure (sliceIndex items.length (← floatArgument "slice" argument n))
      | none => pure absent
    let start ← index "start" 0
    let stop ← index "end" items.length
    pure (.array ((items.take stop).drop start))

def concat (v : Value) (args : Dict Value) : FilterResult Value := do
  let items ← arrayValue "concat" v
  match args.find? "with" with
  | some (.array more) => pure (.array (items ++ more))
  | some v => pure (.array (items ++ [v]))
  | none => throw (.needsArgument "concat" "with")

/-- The values of a field, for the elements that have it. -/
def map (v : Value) (args : Dict Value) : FilterResult Value := do
  let items ← arrayValue "map" v
  if items.isEmpty then
    pure (.array [])
  else
    match args.find? "attribute" with
    | some column => do
      let keys := dottedKeys (← stringArgument "map" "attribute" column)
      pure (.array (items.filterMap fun v =>
        match descend? v keys with
        | some .null => none
        | found => found))
    | none => throw (.needsArgument "map" "attribute")

/-- The elements by the value of a field, for those that have it. -/
def groupBy (v : Value) (args : Dict Value) : FilterResult Value := do
  let items ← arrayValue "group_by" v
  if items.isEmpty then
    pure (.object [])
  else
    match args.find? "attribute" with
    | some column => do
      let keys := dottedKeys (← stringArgument "group_by" "attribute" column)
      let groups := items.foldl (fun groups v => add groups v (descend? v keys)) Dict.empty
      pure (.object (groups.mapValues .array))
    | none => throw (.needsArgument "group_by" "attribute")
where
  add (groups : Dict (List Value)) (v : Value) : Option Value → Dict (List Value)
    | none | some .null => groups
    | some key =>
      let name := key.string?.getD key.compact
      groups.insert name ((groups.find? name).getD [] ++ [v])

/-- The elements that have a value in a field; this value, if it is given. -/
def select (v : Value) (args : Dict Value) : FilterResult Value := do
  let items ← arrayValue "filter" v
  if items.isEmpty then
    pure (.array [])
  else
    match args.find? "attribute" with
    | some column => do
      let keys := dottedKeys (← stringArgument "filter" "attribute" column)
      let wanted := (args.find? "value").getD .null
      pure (.array (items.filter fun v =>
        let found := (descend? v keys).getD .null
        if wanted.isNull then !found.isNull else found == wanted))
    | none => throw (.needsArgument "filter" "attribute")

/-- The value under a key of an object. -/
def get (v : Value) (args : Dict Value) : FilterResult Value :=
  match args.find? "key" with
  | none => throw (.needsArgument "get" "key")
  | some key => do
    let key ← stringArgument "get" "key" key
    match v with
    | .object fields =>
      match Dict.find? key fields <|> args.find? "default" with
      | some found => pure found
      | none =>
        throw (.unsupported ("Filter `get` tried to get key `" ++ key ++ "` but it wasn't found"))
    | _ => throw (.unsupported "Filter `get` was used on a value that isn't an object")

def noField (column : String) : FilterFault :=
  .unsupported ("attribute '" ++ column ++ "' does not reference a field")

/-- What the elements of an array are sorted by. -/
inductive SortKey
  | bool (b : Bool)
  | float (x : Float)
  | string (s : String)
  | length (n : Nat)

def SortKey.le : SortKey → SortKey → Bool
  | .bool a, .bool b => !a || b
  | .float a, .float b => a ≤ b
  | .string a, .string b => a ≤ b
  | .length a, .length b => a ≤ b
  | _, _ => true

/-- The key of an element in an array whose first element is `model`. -/
def sortKey (model key : Value) : FilterResult SortKey :=
  match model, key with
  | .null, _ => throw (.unsupported "Null is not a sortable value")
  | .object _, _ => throw (.unsupported "Object is not a sortable value")
  | .bool _, .bool b => pure (.bool b)
  | .number _, .number n => pure (.float n.toFloat)
  | .string _, .string s => pure (.string s)
  | .array _, .array items => pure (.length items.length)
  | .bool _, v => throw (.unsupported ("expected bool got " ++ v.compact))
  | .number _, v => throw (.unsupported ("expected number got " ++ v.compact))
  | .string _, v => throw (.unsupported ("expected string got " ++ v.compact))
  | .array _, v => throw (.unsupported ("expected array got " ++ v.compact))

def sort (v : Value) (args : Dict Value) : FilterResult Value := do
  let items ← arrayValue "sort" v
  match items with
  | [] => pure (.array [])
  | head :: _ =>
    let column ← optionalString "sort" "attribute" "" args
    let keyOf (v : Value) : FilterResult Value :=
      match descend? v (dottedKeys column) with
      | some key => pure key
      | none => throw (noField column)
    let model ← keyOf head
    let keyed ← items.mapM fun v => do pure (← sortKey model (← keyOf v), v)
    pure (.array ((keyed.mergeSort fun a b => a.1.le b.1).map (·.2)))

/-- What has to differ between the elements that stay, in an array whose first key is `model`. -/
def uniqueKey (caseSensitive : Bool) (model key : Value) : FilterResult Value :=
  match model, key with
  | .null, _ => throw (.unsupported "Null is not a unique value")
  | .array _, _ => throw (.unsupported "Unique arrays are not implemented")
  | .object _, _ => throw (.unsupported "Unique objects are not implemented")
  | .number (.float _), _ => throw (.unsupported "Unique floats are not implemented")
  | .bool _, .bool b => pure (.bool b)
  | .number _, .number (.int n) =>
    if n < 0x8000000000000000 then
      pure (.int n)
    else
      throw (.unsupported ("expected number got " ++ toString n))
  | .number _, .number (.float x) =>
    throw (.unsupported ("expected number got " ++ Value.compact (.float x)))
  | .string _, .string s => pure (.string (if caseSensitive then s else Text.lower s))
  | _, _ => throw (.unsupported "unique filter can't compare multiple types")

def unique (v : Value) (args : Dict Value) : FilterResult Value := do
  let items ← arrayValue "unique" v
  match items with
  | [] => pure (.array [])
  | head :: _ =>
    let caseSensitive ← optionalFlag "unique" "case_sensitive" args
    let column ← optionalString "unique" "attribute" "" args
    let keys := dottedKeys column
    let model ←
      match descend? head keys with
      | some model => pure model
      | none => throw (noField column)
    let (kept, _) ← items.foldlM
      (fun (kept, seen) v =>
        match descend? v keys with
        | none => pure (kept, seen)
        | some key => do
          let key ← uniqueKey caseSensitive model key
          pure (if seen.contains key then (kept, seen) else (kept ++ [v], seen ++ [key])))
      (([], []) : List Value × List Value)
    pure (.array kept)

def abs (v : Value) : FilterResult Value :=
  match v with
  | .number (.int n) => pure (.int n.natAbs)
  | .number (.float x) => pure (.float x.abs)
  | _ => throw (.unsupported "Filter `abs` was used on a value that isn't a number.")

def round (v : Value) (args : Dict Value) : FilterResult Value := do
  let x ←
    match v with
    | .number n => pure n.toFloat
    | v => throw (.wrongValue "round" v "f64")
  let method ← optionalString "round" "method" "common" args
  let precision ←
    match args.find? "precision" with
    | some n => intArgument "round" "precision" "i32" (-0x80000000) 0x7FFFFFFF n
    | none => pure 0
  let power := Decimal.nearest 1 precision.natAbs
  let scale := if precision < 0 then 1 / power else power
  match method with
  | "common" => pure (.float ((scale * x).round / scale))
  | "ceil" => pure (.float ((scale * x).ceil / scale))
  | "floor" => pure (.float ((scale * x).floor / scale))
  | method =>
    throw (.unsupported
      ("Filter `round` received an incorrect value for arg `method`: got `" ++ Json.quote method
        ++ "`, only common, ceil and floor are allowed"))

/-- A word in the singular for one, and in the plural for every other number. -/
def pluralize (v : Value) (args : Dict Value) : FilterResult Value := do
  let x ←
    match v with
    | .number n => pure n.toFloat
    | v => throw (.wrongValue "pluralize" v "f64")
  let plural ← optionalString "pluralize" "plural" "s" args
  let singular ← optionalString "pluralize" "singular" "" args
  let isOne := (x.abs - 1).abs ≤ Decimal.nearest 2220446049250313 (-31)
  pure (.string (if isOne then singular else plural))

/-- The whole number that digits of a base spell, with a sign that may stand before them. -/
def intOfDigits? (base : Nat) (s : List Char) : Option Int :=
  let (negative, digits) :=
    match s with
    | '-' :: r => (true, r)
    | '+' :: r => (false, r)
    | r => (false, r)
  let digit? (c : Char) : Option Nat :=
    let c := c.toLower
    let value :=
      if Decimal.isDigit c then c.toNat - 48
      else if 'a' ≤ c && c ≤ 'z' then c.toNat - 87
      else base
    if value < base then some value else none
  if digits.isEmpty then
    none
  else do
    let values ← digits.mapM digit?
    let n : Int := (values.foldl (fun n d => base * n + d) 0 : Nat)
    let n := if negative then -n else n
    if -0x8000000000000000 ≤ n && n < 0x8000000000000000 then pure n else none

/-- Drops a mark at the start of a text, as often as it stands there. -/
def dropMark (mark : List Char) (s : List Char) : List Char :=
  go s.length s
where
  go : Nat → List Char → List Char
    | 0, s => s
    | fuel + 1, s =>
      match Text.afterLeading? mark s with
      | some r => go fuel r
      | none => s

/-- Drops a text at the start or at the end of another, as often as it stands there. -/
def trimMatches (filter : String) (drop : (mark s : List Char) → List Char) (v : Value)
    (args : Dict Value) : FilterResult Value := do
  let s ← stringValue filter v
  let pattern ← required filter "pat" args
  pure (.string (.ofList (drop (separatorText pattern).toList s.toList)))

def dropMarkEnd (mark s : List Char) : List Char := (dropMark mark.reverse s.reverse).reverse

def int (v : Value) (args : Dict Value) : FilterResult Value := do
  let absent ←
    match args.find? "default" with
    | some n => intArgument "int" "default" "i64" (-0x8000000000000000) 0x7FFFFFFFFFFFFFFF n
    | none => pure 0
  let base ←
    match args.find? "base" with
    | some n => intArgument "int" "base" "u32" 0 0xFFFFFFFF n
    | none => pure 10
  match v with
  | .string s =>
    let s := Text.trim s.toList
    let digits :=
      if base = 2 then dropMark ['0', 'b'] s
      else if base = 8 then dropMark ['0', 'o'] s
      else if base = 16 then dropMark ['0', 'x'] s
      else s
    match intOfDigits? base.toNat digits with
    | some n => pure (.int n)
    | none =>
      if digits.contains '.' then
        match Decimal.float? (.ofList digits) with
        | some x => pure (.int x.toInt64.toInt)
        | none => pure (.int absent)
      else
        pure (.int absent)
  | .number n => pure (.int n.toFloat.toInt64.toInt)
  | _ => throw (.unsupported "Filter `int` received an unexpected type")

def float (v : Value) (args : Dict Value) : FilterResult Value := do
  let absent ←
    match args.find? "default" with
    | some n => floatArgument "float" "default" n
    | none => pure 0
  match v with
  | .string s => pure (.float ((Decimal.float? (Text.stripped s)).getD absent))
  | .number n => pure (.float n.toFloat)
  | _ => throw (.unsupported "Filter `float` received an unexpected type")

def jsonEncode (v : Value) (args : Dict Value) : FilterResult Value :=
  match args.find? "pretty" with
  | some (.bool true) => pure (.string v.pretty)
  | _ => pure (.string v.compact)

/-- The filter of a name. Left out are `truncate`, which counts grapheme clusters, `urlencode`,
`urlencode_strict`, `slugify`, `filesizeformat` and `date`: a template that uses them counts as one
that uses an unknown filter. -/
def find? (name : String) : Option (Value → Dict Value → FilterResult Value) :=
  match name with
  | "upper" => some fun v _ => onString "upper" Text.upperChars v
  | "lower" => some fun v _ => onString "lower" Text.lowerChars v
  | "trim" => some fun v _ => onString "trim" Text.trim v
  | "trim_start" => some fun v _ => onString "trim_start" Text.trimStart v
  | "trim_end" => some fun v _ => onString "trim_end" Text.trimEnd v
  | "trim_start_matches" => some (trimMatches "trim_start_matches" dropMark)
  | "trim_end_matches" => some (trimMatches "trim_end_matches" dropMarkEnd)
  | "wordcount" => some fun v _ => do
    pure (.nat (Text.words (← stringValue "wordcount" v).toList).length)
  | "linebreaksbr" => some fun v _ => onString "linebreaksbr" lineBreaks v
  | "indent" => some indent
  | "striptags" => some fun v _ => onString "striptags" stripTags v
  | "spaceless" => some fun v _ => onString "spaceless" spaceless v
  | "escape" => some fun v _ => onString "escape_html" (escape htmlNames) v
  | "escape_xml" => some fun v _ => onString "escape_xml" (escape xmlNames) v
  | "capitalize" => some fun v _ => onString "capitalize" capitalize v
  | "title" => some fun v _ => onString "title" title v
  | "addslashes" => some fun v _ => onString "addslashes" addSlashes v
  | "replace" => some replace
  | "split" => some split
  | "join" => some join
  | "length" => some fun v _ => length v
  | "reverse" => some fun v _ => reverse v
  | "first" => some fun v _ => first v
  | "last" => some fun v _ => last v
  | "nth" => some nth
  | "slice" => some slice
  | "concat" => some concat
  | "map" => some map
  | "group_by" => some groupBy
  | "filter" => some select
  | "get" => some get
  | "sort" => some sort
  | "unique" => some unique
  | "abs" => some fun v _ => abs v
  | "pluralize" => some pluralize
  | "round" => some round
  | "int" => some int
  | "float" => some float
  | "as_str" => some fun v _ => pure (.string (textOf v))
  | "json_encode" => some jsonEncode
  | _ => none

end Filter

end DataQuality.Template
