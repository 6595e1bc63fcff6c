import Mathlib.Data.List.Chain
import DataQuality.Proofs.Outcome
import DataQuality.Proofs.Template.Unresolved
import DataQuality.Proofs.Text.Words

/-!
Marks in texts that are put together. A mark is two like braces side by side, so it lies in one of
two parts or across their joint, and it lies across no joint at which one of the parts has no brace.
-/

namespace DataQuality.Template

/-- Two opening or two closing braces stand side by side. -/
def Marked (s : String) : Prop :=
  ['\x7b', '\x7b'] <:+: s.toList ∨ ['\x7d', '\x7d'] <:+: s.toList

def IsBrace (c : Char) : Prop := c = '\x7b' ∨ c = '\x7d'

instance (c : Char) : Decidable (IsBrace c) := inferInstanceAs (Decidable (_ ∨ _))

def BraceFree (s : List Char) : Prop := ∀ c ∈ s, ¬ IsBrace c

-- By name: an instance that goes through all characters would be found first, if there is one.
instance (s : List Char) : Decidable (BraceFree s) :=
  List.decidableBAll (fun c => ¬ IsBrace c) s

def Unmarked (s : List Char) : Prop := s.IsChain fun c d => c = d → ¬ IsBrace c

theorem unmarked_iff {s : List Char} :
    Unmarked s ↔ ¬ ['\x7b', '\x7b'] <:+: s ∧ ¬ ['\x7d', '\x7d'] <:+: s := by
  have hpair (c : Char) (hc : IsBrace c) (h : Unmarked s) : ¬ [c, c] <:+: s := by
    intro hinfix
    have := List.IsChain.infix h hinfix
    simp [hc] at this
  constructor
  . intro h
    exact ⟨hpair '\x7b' (.inl rfl) h, hpair '\x7d' (.inr rfl) h⟩
  . rintro ⟨hopen, hclose⟩
    apply List.isChain_iff_forall_rel_of_append_cons_cons.2
    rintro c d before after hs rfl (rfl | rfl)
    . exact hopen ⟨before, after, by simp [hs]⟩
    . exact hclose ⟨before, after, by simp [hs]⟩

theorem not_marked_iff {s : String} : ¬ Marked s ↔ Unmarked s.toList := by
  unfold Marked
  rw [not_or, unmarked_iff]

theorem hasMark_eq_false_iff {s : List Char} : hasMark s = false ↔ Unmarked s := by
  unfold hasMark
  rw [unmarked_iff, Bool.or_eq_false_iff, ← Bool.not_eq_true, ← Bool.not_eq_true,
    Text.occursIn_eq_true_iff, Text.occursIn_eq_true_iff]

theorem render_eq_ok_iff {rule template : String} {params : Dict Json.Value} {text : String} :
    render rule template params = .ok text
      ↔
    unresolved template params = [] ∧ renderText rule template params = .ok text
      ∧ Unmarked text.toList := by
  by_cases hresolved : unresolved template params = []
  . rw [render_of_resolved hresolved, Outcome.bind_eq_ok_iff, and_iff_right hresolved]
    constructor
    . rintro ⟨a, ha, h⟩
      split at h
      . cases h
      . next hmark =>
        cases h
        exact ⟨ha, hasMark_eq_false_iff.1 (eq_false_of_ne_true hmark)⟩
    . rintro ⟨htext, hunmarked⟩
      refine ⟨text, htext, ?_⟩
      rw [hasMark_eq_false_iff.2 hunmarked]
      rfl
  . rw [render_of_unresolved hresolved]
    simp [hresolved]

theorem unmarked_of_render {rule template : String} {params : Dict Json.Value} {text : String}
    (h : render rule template params = .ok text) : Unmarked text.toList :=
  (render_eq_ok_iff.1 h).2.2

section

variable {s t : List Char}

theorem braceFree_append_iff : BraceFree (s ++ t) ↔ BraceFree s ∧ BraceFree t :=
  List.forall_mem_append

theorem BraceFree.append (hs : BraceFree s) (ht : BraceFree t) : BraceFree (s ++ t) :=
  braceFree_append_iff.2 ⟨hs, ht⟩

theorem BraceFree.unmarked (h : BraceFree s) : Unmarked s := by
  apply List.isChain_iff_forall_rel_of_append_cons_cons.2
  intro c d before after hs _
  apply h
  simp [hs]

theorem unmarked_append_iff (h : ∀ c, t.head? = some c → ¬ IsBrace c) :
    Unmarked (s ++ t) ↔ Unmarked s ∧ Unmarked t := by
  unfold Unmarked
  rw [List.isChain_append]
  constructor
  . rintro ⟨hs, ht, _⟩
    exact ⟨hs, ht⟩
  . rintro ⟨hs, ht⟩
    refine ⟨hs, ht, ?_⟩
    rintro c _ d hd rfl
    exact h c hd

theorem unmarked_append_iff_left (h : BraceFree t) : Unmarked (s ++ t) ↔ Unmarked s := by
  rw [unmarked_append_iff fun c hc => h c (List.mem_of_head? hc),
    and_iff_left h.unmarked]

theorem unmarked_append_iff_right (h : BraceFree s) : Unmarked (s ++ t) ↔ Unmarked t := by
  unfold Unmarked
  rw [List.isChain_append]
  constructor
  . rintro ⟨_, ht, _⟩
    exact ht
  . intro ht
    refine ⟨h.unmarked, ht, ?_⟩
    intro c hc d _ _
    exact h c (List.mem_of_getLast? hc)

theorem unmarked_separated_iff {separator : List Char} (hne : separator ≠ [])
    (h : BraceFree separator) :
    Unmarked (s ++ separator ++ t) ↔ Unmarked s ∧ Unmarked t := by
  have hhead (c : Char) (hc : (separator ++ t).head? = some c) : ¬ IsBrace c := by
    rw [List.head?_append_of_ne_nil _ hne] at hc
    exact h c (List.mem_of_head? hc)
  rw [List.append_assoc, unmarked_append_iff hhead, unmarked_append_iff_right h]

theorem not_isBrace_of_isBlank {c : Char} (h : Text.isBlank c = true) : ¬ IsBrace c := by
  rintro (rfl | rfl)
  . revert h
    decide
  . revert h
    decide

theorem unmarked_words_go (word s : List Char) :
    (∀ w ∈ Text.words.go word s, Unmarked w) ↔ Unmarked (word.reverse ++ s) := by
  have hflush (word : List Char) (rest : List (List Char)) :
      (∀ w ∈ Text.words.flush word rest, Unmarked w)
        ↔ Unmarked word.reverse ∧ ∀ w ∈ rest, Unmarked w := by
    unfold Text.words.flush
    split
    . next hword =>
      have hnil : Unmarked [] := List.isChain_nil
      simp [List.isEmpty_iff.1 hword, hnil]
    . rw [List.forall_mem_cons]
  induction s generalizing word with
  | nil =>
    unfold Text.words.go
    simp [hflush]
  | cons c r ih =>
    unfold Text.words.go
    split
    . next hc =>
      -- The joint at white space is clear, and the next word starts behind it.
      have hblank : BraceFree [c] := by simp [BraceFree, not_isBrace_of_isBlank hc]
      have hjoint : ∀ d, (c :: r).head? = some d → ¬ IsBrace d := by
        rintro d ⟨⟩
        exact not_isBrace_of_isBlank hc
      have hrest : Unmarked (c :: r) ↔ Unmarked r := unmarked_append_iff_right (s := [c]) hblank
      simp only [hflush, ih, unmarked_append_iff hjoint, hrest]
      rfl
    . simp [ih]

theorem unmarked_words_iff : (∀ w ∈ Text.words s, Unmarked w) ↔ Unmarked s := by
  unfold Text.words
  rw [unmarked_words_go]
  rfl

end

theorem unmarked_join_iff {separator : String} (hne : separator ≠ "")
    (h : BraceFree separator.toList) {texts : List String} :
    Unmarked (Text.join separator texts).toList ↔ ∀ s ∈ texts, Unmarked s.toList := by
  induction texts with
  | nil => simp [Text.join, Unmarked]
  | cons s rest ih =>
    cases rest with
    | nil => simp [Text.join]
    | cons t rest =>
      have hstep : Text.join separator (s :: t :: rest)
          = s ++ separator ++ Text.join separator (t :: rest) := rfl
      have hlist : separator.toList ≠ [] := mt String.toList_eq_nil_iff.1 hne
      rw [hstep, String.toList_append, String.toList_append, unmarked_separated_iff hlist h, ih,
        List.forall_mem_cons (a := s)]

end DataQuality.Template
