import DataQuality.Proofs.Template.Plain

/-!
Templates as sequences of texts, outputs and statements, with the white space and the hyphens that
may stand in their tags. Loops and conditions need not be closed, and what follows the last name or
word of a tag is any text without braces.
-/

namespace DataQuality.Template

/-- A text that does not continue a name or a word. -/
def Apart (s : List Char) : Prop := ∀ c, s.head? = some c → isNameChar c = false

/-- White space, or nothing. -/
structure Blanks where
  text : String
  form : ∀ c ∈ text.toList, Text.isBlank c = true

/-- The white space between two words. -/
structure Gap extends Blanks where
  nonempty : text ≠ ""

/-- The rest of a tag, with the hyphen that may stand at its end. -/
structure Tail extends PlainText where
  apart : Apart text.toList

/-- What stands between the mark of a tag and its first word. -/
structure Opening where
  hyphen : Bool
  blanks : Blanks

/-- The names that a loop binds. -/
inductive Binder
  | item (v : Name)
  | entry (key : Name) (before after : Blanks) (v : Name)

inductive Statement
  | loop (afterFor : Gap) (binder : Binder) (beforeIn afterIn : Gap) (list : Name)
  | branch (again : Bool) (gap : Gap) (negation : Option Gap) (v : Name)
  | assign (everywhere : Bool) (gap : Gap) (v : Name)
  | otherwise
  | endBranch
  | endLoop

inductive Segment
  | text (s : PlainText)
  | output (o : Opening) (v : Name) (tail : Tail)
  | statement (o : Opening) (s : Statement) (tail : Tail)

def Blanks.source (b : Blanks) : List Char := b.text.toList

def Tail.source (t : Tail) : List Char := t.text.toList

def Opening.source (o : Opening) : List Char := (if o.hyphen then ['-'] else []) ++ o.blanks.source

namespace Binder

def source : Binder → List Char
  | item v => v.source
  | entry key before after v =>
    key.source ++ before.source ++ ",".toList ++ after.source ++ v.source

def names : Binder → List Name
  | item v => [v]
  | entry key _ _ v => [key, v]

end Binder

namespace Statement

def source : Statement → List Char
  | loop afterFor binder beforeIn afterIn list =>
    "for".toList ++ afterFor.source ++ binder.source ++ beforeIn.source ++ "in".toList
      ++ afterIn.source ++ list.source
  | branch again gap negation v =>
    (if again then "elif" else "if").toList ++ gap.source
      ++ negation.elim [] (fun after => "not".toList ++ after.source) ++ v.source
  | assign everywhere gap v =>
    (if everywhere then "set_global" else "set").toList ++ gap.source ++ v.source
  | otherwise => "else".toList
  | endBranch => "endif".toList
  | endLoop => "endfor".toList

def read? : Statement → Option Name
  | loop _ _ _ _ list => some list
  | branch _ _ _ v => some v
  | assign .. | otherwise | endBranch | endLoop => none

def binds : Statement → List Name
  | loop _ binder .. => binder.names
  | assign _ _ v => [v]
  | branch .. | otherwise | endBranch | endLoop => []

end Statement

namespace Segment

def source : Segment → List Char
  | text s => s.text.toList
  | output o v tail =>
    "\x7b\x7b".toList ++ o.source ++ v.source ++ tail.source ++ "\x7d\x7d".toList
  | statement o s tail =>
    "\x7b%".toList ++ o.source ++ s.source ++ tail.source ++ "%\x7d".toList

def read? : Segment → Option Name
  | text _ => none
  | output _ v _ => some v
  | statement _ s _ => s.read?

def binds : Segment → List Name
  | text _ | output .. => []
  | statement _ s _ => s.binds

end Segment

section

variable (t : List Segment)

def source : List Char := t.flatMap Segment.source

/-- The variables of outputs, and those that loops run over or conditions start with. -/
def reads : List String := (t.filterMap Segment.read?).map Name.text

/-- The names that some loop or assignment binds. -/
def binds : List String := (t.flatMap Segment.binds).map Name.text

end

end DataQuality.Template
