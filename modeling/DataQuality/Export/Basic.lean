import DataQuality.CheckResult
import DataQuality.Logged
import DataQuality.RunMetadata
import DataQuality.Storage.Tree

/-!
Exporters. An exporter writes the results of a run into a tree of files; what it has written before it
fails stays there.
-/

namespace DataQuality

/-- What an export leaves behind: the files, its events, and the place of the results or the reason
why they could not be written. -/
structure Delivery where
  files : Storage.Tree
  outcome : Except Error String
  events : List Log.Event

structure Exporter where
  name : String
  deliver : Storage.Tree → RunMetadata → List CheckResult → Delivery

namespace Export

/-- The directories above a path, created where they do not exist. -/
def makeParent (exporter path : String) (files : Storage.Tree) : Except Error Storage.Tree :=
  let directory := Storage.parent path
  if directory.isEmpty then
    pure files
  else
    match files.makeDirectories directory with
    | .ok files => pure files
    | .error fault => throw (.exportFailed exporter (directory ++ ": " ++ fault.message))

def writeFile (exporter path text : String) (files : Storage.Tree) :
    Except Error Storage.Tree := do
  match (← makeParent exporter path files).write path (.text text) with
  | .ok files => pure files
  | .error fault => throw (.exportFailed exporter (path ++ ": " ++ fault.message))

/-- The event that ends an export. -/
def exported (format : String) (places : List (String × String)) (results : List CheckResult) :
    Log.Event :=
  ⟨.info, "Results exported",
    ("export.format", format) :: places ++ [("export.results", toString results.length)]⟩

/-- Writes one text to one file. -/
def deliverText (format path : String) (text : Except Error String) (files : Storage.Tree)
    (results : List CheckResult) : Delivery :=
  match text >>= fun text => writeFile format path text files with
  | .ok files => ⟨files, .ok path, [exported format [("export.destination", path)] results]⟩
  | .error e => ⟨files, .error e, []⟩

end Export

end DataQuality
