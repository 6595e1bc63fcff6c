import DataQuality.Storage.Database
import DataQuality.Text.Search

/-!
A tree of files as a value. Every operation says what it does to the tree, or why the system would
refuse it.
-/

namespace DataQuality.Storage

/-- What a file holds. Binary content is neither text nor a database. -/
inductive Content
  | text (s : String)
  | binary
  | database (d : Database)

inductive Entry
  | directory
  | file (content : Content)

/-- Why the system refuses an operation. -/
inductive Fault
  | notFound
  | exists
  | notDirectory
  | isDirectory
  | notText
  deriving DecidableEq

def Fault.message : Fault → String
  | .notFound => "No such file or directory (os error 2)"
  | .exists => "File exists (os error 17)"
  | .notDirectory => "Not a directory (os error 20)"
  | .isDirectory => "Is a directory (os error 21)"
  | .notText => "stream did not contain valid UTF-8"

/-- The names on the way from the root to an entry. -/
abbrev Route := List String

/-- The route of a path; repeated slashes count as one. -/
def route (path : String) : Route :=
  ((Text.pieces ['/'] path.toList).filter fun name => !name.isEmpty && name != ['.']).map
    String.ofList

/-- The path of the directory that holds a path. -/
def parent (path : String) : String :=
  let path := Text.dropSlashes path.toList
  let parts := Text.pieces ['/'] path
  .ofList (Text.dropSlashes (path.take (path.length - (parts.getLast?.getD []).length)))

/-- The path of a name in a directory. -/
def within (directory name : String) : String :=
  if directory.isEmpty || directory.toList.getLast? == some '/' then
    directory ++ name
  else
    directory ++ "/" ++ name

/-- Entries by route. The root is always a directory. -/
structure Tree where
  entries : List (Route × Entry)

namespace Tree

def empty : Tree := ⟨[]⟩

def entry? (t : Tree) (r : Route) : Option Entry :=
  if r.isEmpty then some .directory else t.entries.lookup r

def insert (t : Tree) (r : Route) (e : Entry) : Tree :=
  ⟨(t.entries.filter fun (other, _) => other != r) ++ [(r, e)]⟩

/-- The entry at a route; every name before the last has to be a directory. -/
def find (t : Tree) (r : Route) : Except Fault Entry :=
  go [] r
where
  go (done : Route) : Route → Except Fault Entry
    | [] =>
      match t.entry? done with
      | some e => pure e
      | none => throw .notFound
    | name :: rest =>
      match t.entry? done with
      | some .directory => go (done ++ [name]) rest
      | some (.file _) => throw .notDirectory
      | none => throw .notFound

def isDirectory (t : Tree) (path : String) : Bool :=
  match t.find (route path) with
  | .ok .directory => true
  | _ => false

/-- The names in a directory in increasing order. -/
def names (t : Tree) (path : String) : List String :=
  let here := route path
  let names := t.entries.filterMap fun (r, _) =>
    match r.getLast? with
    | some name => if r.dropLast == here then some name else none
    | none => none
  names.mergeSort fun a b => a ≤ b

def readText (t : Tree) (path : String) : Except Fault String := do
  match ← t.find (route path) with
  | .file (.text s) => pure s
  | .file _ => throw .notText
  | .directory => throw .isDirectory

/-- Creates the directories on a route that do not exist yet. -/
def makeDirectories (t : Tree) (path : String) : Except Fault Tree :=
  go t [] (route path)
where
  go (t : Tree) (done : Route) : Route → Except Fault Tree
    | [] => pure t
    | name :: rest =>
      let here := done ++ [name]
      match t.entry? here with
      | some .directory => go t here rest
      | some (.file _) => throw (if rest.isEmpty then .exists else .notDirectory)
      | none => go (t.insert here .directory) here rest

/-- Writes a file in a directory that exists, in place of an earlier one. -/
def write (t : Tree) (path : String) (content : Content) : Except Fault Tree := do
  let r := route path
  match ← t.find r.dropLast with
  | .file _ => throw .notDirectory
  | .directory =>
    match t.entry? r with
    | some .directory => throw .isDirectory
    | _ => pure (t.insert r (.file content))

end Tree

end DataQuality.Storage
