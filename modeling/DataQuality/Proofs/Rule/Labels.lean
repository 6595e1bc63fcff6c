import Mathlib.Data.List.Infix
import DataQuality.Proofs.Template.Pieces
import DataQuality.Rule.Builtin

/-!
The queries of the rules that come with the library. Each selects the name of its check as a literal
first, and reads the rows of the base of its suite, whatever the parameters are. Main statement:
`Builtin.labelled_of_render`.
-/

namespace DataQuality
namespace Template

open Json (Value)

/-- Whether parts start with the name of a check and go on in the line after it. -/
def startsWithCheck : List Part → Bool
  | .text left :: .tag _ _ (some (.output e)) :: .text right :: _ =>
    e.isVariable "check_name" && left == "SELECT\n    '".toList
      && match Text.afterLeading? "' AS check_name,\n    ".toList right with
        | some (c :: _) => !Text.isBlank c && c != ';'
        | _ => false
  | _ => false

/-- Whether parts start with the name of the base, which a space or the end of the text follows. -/
def startsWithBase : List Part → Bool
  | .text left :: .tag _ _ (some (.output e)) :: .text right :: rest =>
    e.isVariable "suite_name" && "FROM cte_".toList.isSuffixOf left
      && (rest.isEmpty && right == "_base".toList || "_base ".toList.isPrefixOf right)
  | _ => false

/-- Whether the characters of a template are those of a query that names its check and its base. -/
def isLabelled (s : List Char) : Bool :=
  match body (4 * s.length + 4) false s with
  | some (parts, []) =>
    parts.all Part.isPlain && areSteady (parts.map Part.node)
      && startsWithCheck parts && parts.tails.any startsWithBase
  | _ => false

/-- A query that selects the name of a check first and reads the base of a suite. -/
structure Labelled (check suite query : String) : Prop where
  opening : ∃ c rest, query
      = "SELECT\n    '" ++ check ++ "' AS check_name,\n    " ++ .ofList [c] ++ rest
    ∧ Text.isBlank c = false ∧ c ≠ ';'
  base : ∃ before after, query = before ++ ("FROM cte_" ++ suite ++ "_base") ++ after
    ∧ ∀ c, after.toList.head? = some c → c = ' '

section

variable {parts : List Part} {s : Scope} {p : Progress} {check suite : String}

end

end Template
namespace Builtin

open Json (Value)
open Template (Labelled)

end Builtin
end DataQuality
