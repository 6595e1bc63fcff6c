import Mathlib.Data.List.DropRight
import DataQuality.Text.Blank

/-!
What a text is made of around the part that trimming keeps, and which texts trimming empties.
-/

namespace DataQuality.Text

variable {p : Char → Bool} {s kept dropped : List Char}

theorem dropWhileEnd_append (hkept : ∀ c, kept.getLast? = some c → p c = false)
    (hdropped : ∀ c ∈ dropped, p c = true) : dropWhileEnd p (kept ++ dropped) = kept := by
  induction dropped using List.reverseRecOn with
  | nil =>
    rw [List.append_nil]
    change kept.rdropWhile p = kept
    rw [List.rdropWhile_eq_self_iff]
    intro hne
    rw [hkept _ (List.getLast?_eq_some_getLast hne)]
    simp
  | append_singleton dropped c ih =>
    have hc := hdropped c (by simp)
    rw [← List.append_assoc]
    change ((kept ++ dropped) ++ [c]).rdropWhile p = kept
    rw [List.rdropWhile_concat_pos _ _ _ hc]
    apply ih
    intro d hd
    exact hdropped d (List.mem_append_left _ hd)

theorem exists_dropped (p : Char → Bool) (s : List Char) :
    ∃ dropped, s = dropWhileEnd p s ++ dropped ∧ ∀ c ∈ dropped, p c = true := by
  refine ⟨s.rtakeWhile p, ?_, ?_⟩
  . exact List.rdropWhile_append_rtakeWhile.symm
  . intro c hc
    exact List.mem_rtakeWhile_imp hc

theorem head?_dropWhileEnd {c : Char} (h : (dropWhileEnd p s).head? = some c) :
    s.head? = some c := by
  obtain ⟨dropped, hs, _⟩ := exists_dropped p s
  rw [hs, List.head?_append, h]
  rfl

theorem head?_dropWhile {c : Char} (h : (s.dropWhile p).head? = some c) : p c = false := by
  have := List.head?_dropWhile_not p s
  rw [h] at this
  simpa using this

theorem trim_append {lead s trail : List Char} (hlead : ∀ c ∈ lead, isBlank c = true)
    (hs : ∀ c ∈ s, isBlank c = false) (htrail : ∀ c ∈ trail, isBlank c = true) :
    trim (lead ++ s ++ trail) = s := by
  have hstart : trimStart (lead ++ s ++ trail) = trimStart (s ++ trail) := by
    unfold trimStart
    rw [List.append_assoc, List.dropWhile_append_of_pos hlead]
  unfold trim
  rw [hstart]
  cases s with
  | nil =>
    have hnone : trimStart ([] ++ trail) = [] := List.dropWhile_eq_nil_iff.2 htrail
    rw [hnone]
    rfl
  | cons c r =>
    have hkept : trimStart (c :: r ++ trail) = c :: r ++ trail := by
      unfold trimStart
      rw [List.cons_append, List.dropWhile_cons_of_neg]
      simp [hs c List.mem_cons_self]
    rw [hkept]
    apply dropWhileEnd_append _ htrail
    intro d hd
    exact hs d (List.mem_of_getLast? hd)

theorem hasContent_iff {s : String} :
    hasContent s = true ↔ ∃ c ∈ s.toList, isBlank c = false := by
  unfold hasContent
  simp

theorem hasContent_eq_false_iff {s : String} :
    hasContent s = false ↔ ∀ c ∈ s.toList, isBlank c = true := by
  unfold hasContent
  simp

end DataQuality.Text
