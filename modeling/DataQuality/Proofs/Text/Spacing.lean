import DataQuality.Proofs.Text.Trim
import DataQuality.Proofs.Text.Words

/-!
Texts of words with single spaces between them, and that joining the words of a text gives one.
-/

namespace DataQuality.Text

def IsWord (s : String) : Prop := s ≠ "" ∧ ∀ c ∈ s.toList, isBlank c = false

/-- Words with single spaces between them. -/
inductive Spaced : String → Prop
  | word {w : String} (h : IsWord w) : Spaced w
  | cons {w s : String} (h : IsWord w) (hs : Spaced s) : Spaced (w ++ " " ++ s)

/-- The characters at which a line ends. -/
def lineBreaks : List Char :=
  ['\n', '\x0b', '\x0c', '\r', Char.ofNat 0x85, Char.ofNat 0x2028, Char.ofNat 0x2029]

theorem not_isBlank_of_all {s : String} (h : s.toList.all (!isBlank ·) = true) :
    ∀ c ∈ s.toList, isBlank c = false := by
  simpa using h

theorem IsWord.append_left {s w : String} (hs : ∀ c ∈ s.toList, isBlank c = false)
    (h : IsWord w) : IsWord (s ++ w) := by
  refine ⟨?_, ?_⟩
  . intro hempty
    rw [String.append_eq_empty_iff] at hempty
    exact h.1 hempty.2
  . intro c hc
    rw [String.toList_append, List.mem_append] at hc
    exact hc.elim (hs c) (h.2 c)

theorem IsWord.append_right {s w : String} (hs : ∀ c ∈ s.toList, isBlank c = false)
    (h : IsWord w) : IsWord (w ++ s) := by
  refine ⟨?_, ?_⟩
  . intro hempty
    rw [String.append_eq_empty_iff] at hempty
    exact h.1 hempty.1
  . intro c hc
    rw [String.toList_append, List.mem_append] at hc
    exact hc.elim (h.2 c) (hs c)

theorem Spaced.append_left {p s : String} (hp : ∀ c ∈ p.toList, isBlank c = false)
    (h : Spaced s) : Spaced (p ++ s) := by
  cases h with
  | word h => exact .word (h.append_left hp)
  | cons h hs =>
    rw [← String.append_assoc, ← String.append_assoc]
    exact .cons (h.append_left hp) hs

theorem Spaced.append_right {p s : String} (hp : ∀ c ∈ p.toList, isBlank c = false)
    (h : Spaced s) : Spaced (s ++ p) := by
  induction h with
  | word h => exact .word (h.append_right hp)
  | cons h _ ih =>
    rw [String.append_assoc]
    exact .cons h ih

theorem Spaced.append {s t : String} (hs : Spaced s) (ht : Spaced t) :
    Spaced (s ++ " " ++ t) := by
  induction hs with
  | word h => exact .cons h ht
  | @cons w s h _ ih =>
    have hassoc : w ++ " " ++ s ++ " " ++ t = w ++ " " ++ (s ++ " " ++ t) := by
      simp only [String.append_assoc]
    rw [hassoc]
    exact .cons h ih

theorem spaced_join {words : List String} (hne : words ≠ []) (h : ∀ w ∈ words, IsWord w) :
    Spaced (join " " words) := by
  induction words with
  | nil => exact absurd rfl hne
  | cons w rest ih =>
    rw [List.forall_mem_cons] at h
    cases rest with
    | nil => exact .word h.1
    | cons v rest => exact .cons h.1 (ih (List.cons_ne_nil _ _) h.2)

theorem Spaced.eq_space {s : String} (h : Spaced s) {c : Char} (hc : c ∈ s.toList)
    (hblank : isBlank c = true) : c = ' ' := by
  induction h with
  | word h =>
    rw [h.2 c hc] at hblank
    cases hblank
  | cons h _ ih =>
    rw [String.toList_append, String.toList_append, List.mem_append, List.mem_append] at hc
    rcases hc with (hc | hc) | hc
    . rw [h.2 c hc] at hblank
      cases hblank
    . simpa using hc
    . exact ih hc

theorem Spaced.not_mem_lineBreaks {s : String} (h : Spaced s) {c : Char} (hc : c ∈ s.toList) :
    c ∉ lineBreaks := by
  have hbreaks : lineBreaks.all (fun c => isBlank c && c != ' ') = true := by decide
  intro hbreak
  have hblank := List.all_eq_true.1 hbreaks c hbreak
  rw [Bool.and_eq_true, bne_iff_ne] at hblank
  exact hblank.2 (h.eq_space hc hblank.1)

theorem words.go_ne_nil {s word : List Char}
    (h : word ≠ [] ∨ ∃ c ∈ s, isBlank c = false) : go word s ≠ [] := by
  induction s generalizing word with
  | nil =>
    have hword := h.resolve_right (by simp)
    unfold go flush
    rw [if_neg (by simpa using hword)]
    exact List.cons_ne_nil _ _
  | cons c r ih =>
    unfold go
    split
    . next hc =>
      unfold flush
      split
      . next hword =>
        apply ih
        right
        obtain ⟨d, hd, hblank⟩ := h.resolve_left (by simpa using hword)
        rcases List.mem_cons.1 hd with rfl | hd
        . rw [hc] at hblank
          cases hblank
        . exact ⟨d, hd, hblank⟩
      . exact List.cons_ne_nil _ _
    . exact ih (.inl (List.cons_ne_nil _ _))

theorem spaced_words {s : String} (h : hasContent s = true) :
    Spaced (join " " ((words s.toList).map String.ofList)) := by
  apply spaced_join
  . rw [ne_eq, List.map_eq_nil_iff]
    apply words.go_ne_nil
    exact .inr (hasContent_iff.1 h)
  . intro w hw
    obtain ⟨word, hword, rfl⟩ := List.mem_map.1 hw
    obtain ⟨hne, hblank⟩ := mem_words hword
    refine ⟨?_, ?_⟩
    . simpa using hne
    . rwa [String.toList_ofList]

end DataQuality.Text
