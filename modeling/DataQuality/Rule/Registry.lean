import DataQuality.Json.Document
import DataQuality.Logged
import DataQuality.Rule.Builtin
import DataQuality.Storage.Tree

/-!
Registries of rules. A registry holds the built-in rules and those that were registered with it;
`Registry.Sources` says where the latter come from.
-/

namespace DataQuality

open Json (Value Shape)

/-- Definitions by key. -/
structure Registry where
  builtins : Dict RuleDefinition
  plugins : Dict RuleDefinition

namespace Registry

def keyed (definitions : List RuleDefinition) : Dict RuleDefinition :=
  Dict.ofEntries (definitions.map fun d => (d.key, d))

def builtinOnly : Registry := ⟨keyed Builtin.definitions, .empty⟩

/-- The built-in rules and those that come with the library. -/
def standard : Registry := ⟨keyed Builtin.definitions, keyed Builtin.bundled⟩

/-- The key under which a name is looked up. -/
def keyOf (name : String) : String := Text.lower (Text.stripped name)

def find? (r : Registry) (name : String) : Option RuleDefinition :=
  r.builtins.find? (keyOf name) <|> r.plugins.find? (keyOf name)

def contains (r : Registry) (name : String) : Bool := (r.find? name).isSome

def resolve (r : Registry) (name : String) : Except Error Rule :=
  match r.find? name with
  | some d => pure (.ofDefinition d)
  | none => throw (.ruleNotFound name)

def list (r : Registry) : Dict RuleDefinition := r.builtins.overlay r.plugins

/-- Adds a definition that is valid and whose key is free. -/
def register (r : Registry) (d : RuleDefinition) : Except Error Registry := do
  d.validate
  if r.builtins.hasKey d.key then
    throw (.invalidRule d.name "name collides with a built-in rule")
  else if r.plugins.hasKey d.key then
    throw (.invalidRule d.name "name registered by more than one plugin")
  else
    pure { r with plugins := r.plugins.insert d.key d }

def registerAll (r : Registry) : List RuleDefinition → Logged Registry
  | [] => pure r
  | d :: rest => do
    let r ← r.register d
    Logged.log .debug "Registered plugin rule" [("rule.name", d.name)]
    registerAll r rest

/-- Where the rules of a registry come from: lists of definitions, directories of files, and single
definitions. -/
structure Sources where
  registrations : List (List RuleDefinition)
  directories : List String
  definitions : List RuleDefinition

/-- The definitions of a file, which holds a list of them or a single one. -/
def definitionsOf (text : String) : Except Json.DecodeError (List RuleDefinition) := do
  let _ ← Shape.any.read text
  match (Shape.sequence RuleDefinition.shape).read text with
  | .ok many => pure (many.items.map .ofJson)
  | .error _ =>
    match RuleDefinition.shape.read text with
    | .ok one => pure [.ofJson one]
    | .error _ => throw (.noAlternative "DescriptorFile")

def isRuleFile (name : String) : Bool := ".json".toList.isSuffixOf name.toList

/-- The definitions of a file of rules. -/
def readFile (files : Storage.Tree) (path : String) : Except Error (List RuleDefinition) :=
  match files.readText path with
  | .error fault => throw (.io fault.message)
  | .ok text =>
    match definitionsOf text with
    | .error e =>
      throw (.configuration ("Failed to parse rule file '" ++ path ++ "': " ++ e.message))
    | .ok definitions => pure definitions

def readFiles (files : Storage.Tree) : List String → Logged (List RuleDefinition)
  | [] => pure []
  | path :: rest => do
    let here ← readFile files path
    Logged.log .debug "Loaded rule descriptor" [("rule.file", path)]
    let more ← readFiles files rest
    pure (here ++ more)

/-- The definitions of a directory: those of its rule files, by name. -/
def readDirectory (files : Storage.Tree) (path : String) : Logged (List RuleDefinition) :=
  if files.isDirectory path then
    let base := String.ofList (Text.dropSlashes path.toList)
    readFiles files (((files.names path).filter isRuleFile).map fun name => base ++ "/" ++ name)
  else
    throw (.configuration ("Rule directory '" ++ path ++ "' is not a readable directory"))

def readDirectories (files : Storage.Tree) : List String → Logged (List RuleDefinition)
  | [] => pure []
  | path :: rest => do
    let here ← readDirectory files path
    let more ← readDirectories files rest
    pure (here ++ more)

/-- The registry of the built-in rules and of the rules of all sources, in their order. -/
def build (files : Storage.Tree) (s : Sources) : Logged Registry := do
  let loaded ← readDirectories files s.directories
  let registry ← builtinOnly.registerAll (s.registrations.flatten ++ loaded ++ s.definitions)
  Logged.log .info "Rule registry built"
    [("registry.builtins", toString registry.builtins.length),
     ("registry.plugins", toString registry.plugins.length)]
  pure registry

end Registry

end DataQuality
