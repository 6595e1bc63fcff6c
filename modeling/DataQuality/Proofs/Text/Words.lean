import DataQuality.Text.Blank
import DataQuality.Text.Search

/-!
Words of a text, and texts that are joined: a word is not empty and holds no white space.
-/

namespace DataQuality.Text

theorem join_eq_intercalate (separator : String) (texts : List String) :
    join separator texts = separator.intercalate texts := by
  induction texts with
  | nil => rw [join, String.intercalate_nil]
  | cons s rest ih =>
    cases rest with
    | nil => rw [join, String.intercalate_singleton]
    | cons t rest => rw [join, String.intercalate_cons_cons, ih]; simp

theorem join_empty_eq_join (texts : List String) : join "" texts = String.join texts := by
  induction texts with
  | nil => rw [join, String.join_nil]
  | cons s rest ih =>
    rw [String.join_cons, ← ih]
    cases rest with
    | nil => simp [join]
    | cons t rest => simp [join]

theorem mem_join {separator : String} {texts : List String} {c : Char}
    (h : c ∈ (join separator texts).toList) :
    c ∈ separator.toList ∨ ∃ s ∈ texts, c ∈ s.toList := by
  induction texts with
  | nil => simp [join] at h
  | cons s rest ih =>
    cases rest with
    | nil =>
      rw [join] at h
      exact .inr ⟨s, List.mem_singleton_self s, h⟩
    | cons t rest =>
      rw [join, String.toList_append, String.toList_append, List.mem_append, List.mem_append] at h
      rcases h with (h | h) | h
      . exact .inr ⟨s, List.mem_cons_self, h⟩
      . exact .inl h
      . rcases ih h with h | ⟨u, hu, h⟩
        . exact .inl h
        . exact .inr ⟨u, List.mem_cons_of_mem s hu, h⟩
      . simp

namespace words

theorem mem_flush {word w : List Char} {rest : List (List Char)} (h : w ∈ flush word rest) :
    (w = word.reverse ∧ word ≠ []) ∨ w ∈ rest := by
  unfold flush at h
  split at h
  . exact .inr h
  . next hword =>
    rcases List.mem_cons.1 h with h | h
    . exact .inl ⟨h, by simpa using hword⟩
    . exact .inr h

theorem mem_go {s word w : List Char} (hword : ∀ c ∈ word, isBlank c = false)
    (h : w ∈ go word s) : w ≠ [] ∧ ∀ c ∈ w, isBlank c = false := by
  induction s generalizing word with
  | nil =>
    unfold go at h
    rcases mem_flush h with ⟨rfl, hne⟩ | h
    . simpa [hne] using hword
    . simp at h
  | cons c r ih =>
    unfold go at h
    split at h
    . rcases mem_flush h with ⟨rfl, hne⟩ | h
      . simpa [hne] using hword
      . exact ih (by simp) h
    . next hc =>
      apply ih _ h
      intro d hd
      rcases List.mem_cons.1 hd with hd | hd
      . simpa [hd] using hc
      . exact hword d hd

end words

theorem mem_words {s w : List Char} (h : w ∈ words s) :
    w ≠ [] ∧ ∀ c ∈ w, isBlank c = false := by
  apply words.mem_go _ h
  simp

end DataQuality.Text
