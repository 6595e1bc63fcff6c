import DataQuality.Text.Blank
import DataQuality.Text.Letter

/-!
Lower case: of ASCII it is the simple mapping, character by character, and white space has none.
-/

namespace DataQuality.Text

def IsAscii (s : List Char) : Prop := ∀ c ∈ s, c.toNat < 128

theorem isAscii_of_all {s : List Char} (h : s.all (·.toNat < 128) = true) : IsAscii s := by
  intro c hc
  simpa using List.all_eq_true.1 h c hc

theorem forall_ascii {p : Char → Prop} (h : ∀ n < 128, p (Char.ofNat n)) {c : Char}
    (hc : c.toNat < 128) : p c := by
  have := h c.toNat hc
  rwa [Char.ofNat_toNat] at this

theorem lt_of_isAsciiWord {c : Char} (h : isAsciiWord c = true) : c.toNat < 128 := by
  unfold isAsciiWord Char.isAlphanum Char.isAlpha Char.isUpper Char.isLower Char.isDigit at h
  simp only [Bool.or_eq_true, Bool.and_eq_true, decide_eq_true_eq, beq_iff_eq,
    UInt32.le_iff_toNat_le, ge_iff_le] at h
  change ((((65 ≤ c.toNat ∧ c.toNat ≤ 90) ∨ (97 ≤ c.toNat ∧ c.toNat ≤ 122))
    ∨ (48 ≤ c.toNat ∧ c.toNat ≤ 57)) ∨ c = '_') at h
  rcases h with ((h | h) | h) | rfl
  . omega
  . omega
  . omega
  . decide

theorem lowerChars_go_of_ascii {s : List Char} (h : IsAscii s) (afterCased : Bool) :
    lowerChars.go afterCased s = s.map Char.toLower := by
  induction s generalizing afterCased with
  | nil => rfl
  | cons c r ih =>
    unfold IsAscii at h
    rw [List.forall_mem_cons] at h
    have hsigma : (c == 'Σ') = false := by
      rw [beq_eq_false_iff_ne]
      rintro rfl
      exact absurd h.1 (by decide)
    unfold lowerChars.go
    rw [ih h.2, hsigma, lowerChar_of_ascii h.1]
    rfl

theorem toList_lower {s : String} (h : IsAscii s.toList) :
    (lower s).toList = s.toList.map Char.toLower := by
  unfold lower lowerChars
  rw [String.toList_ofList, lowerChars_go_of_ascii h]

theorem lower_append {s t : String} (hs : IsAscii s.toList) (ht : IsAscii t.toList) :
    lower (s ++ t) = lower s ++ lower t := by
  have happend : IsAscii (s ++ t).toList := by
    intro c hc
    rw [String.toList_append, List.mem_append] at hc
    exact hc.elim (hs c) (ht c)
  rw [← String.toList_inj, String.toList_append, toList_lower happend, toList_lower hs,
    toList_lower ht, String.toList_append, List.map_append]

/-- The code points of white space beyond ASCII. -/
def wideBlanks : List Nat :=
  [0x85, 0xA0, 0x1680, 0x2000, 0x2001, 0x2002, 0x2003, 0x2004, 0x2005, 0x2006, 0x2007, 0x2008,
    0x2009, 0x200A, 0x2028, 0x2029, 0x202F, 0x205F, 0x3000]

theorem toNat_mem_wideBlanks {c : Char} (h : isBlank c = true) (hascii : ¬ c.toNat < 128) :
    c.toNat ∈ wideBlanks := by
  unfold isBlank at h
  unfold wideBlanks
  simp only [Bool.or_eq_true, Bool.and_eq_true, decide_eq_true_eq, beq_iff_eq] at h
  simp only [List.mem_cons, List.not_mem_nil, or_false]
  omega

theorem lowerChar_of_isBlank {c : Char} (h : isBlank c = true) : lowerChar c = [c] := by
  by_cases hascii : c.toNat < 128
  . rw [lowerChar_of_ascii hascii]
    revert h
    apply forall_ascii (p := fun c => isBlank c = true → [c.toLower] = [c]) _ hascii
    decide
  . have hcode := toNat_mem_wideBlanks h hascii
    have hrun : CaseRun.image? lowerRuns c.toNat = none := by
      revert hcode
      generalize c.toNat = code
      revert code
      decide +kernel
    have hdotted : (c.toNat == 0x130) = false := by
      revert hcode
      generalize c.toNat = code
      revert code
      decide
    unfold lowerChar
    rw [if_neg hascii, hdotted, hrun]
    rfl

theorem isWord_of_isBlank {c : Char} (h : isBlank c = true) : isWord c = false := by
  by_cases hascii : c.toNat < 128
  . revert h
    apply forall_ascii (p := fun c => isBlank c = true → isWord c = false) _ hascii
    decide
  . have hcode := toNat_mem_wideBlanks h hascii
    have hword : isAsciiWord c = false := by
      cases hc : isAsciiWord c with
      | false => rfl
      | true => exact absurd (lt_of_isAsciiWord hc) hascii
    have hranges : (wordRanges.any fun range => range.1 ≤ c.toNat && c.toNat ≤ range.2)
        = false := by
      revert hcode
      generalize c.toNat = code
      revert code
      decide +kernel
    change (isAsciiWord c
      || (128 ≤ c.toNat && wordRanges.any fun range => range.1 ≤ c.toNat && c.toNat ≤ range.2)) = _
    rw [hword, hranges, Bool.and_false]
    rfl

theorem mem_lowerChars_go_of_isBlank {s : List Char} {c : Char} (hc : isBlank c = true)
    (hmem : c ∈ s) (afterCased : Bool) : c ∈ lowerChars.go afterCased s := by
  induction s generalizing afterCased with
  | nil => cases hmem
  | cons d r ih =>
    unfold lowerChars.go
    rw [List.mem_append]
    cases hmem with
    | head =>
      left
      have hsigma : (c == 'Σ') = false := by
        rw [beq_eq_false_iff_ne]
        rintro rfl
        exact absurd hc (by decide)
      rw [hsigma, lowerChar_of_isBlank hc]
      exact List.mem_singleton_self c
    | tail _ hmem => exact .inr (ih hmem _)

theorem mem_lower_of_isBlank {s : String} {c : Char} (hc : isBlank c = true) (h : c ∈ s.toList) :
    c ∈ (lower s).toList := by
  unfold lower lowerChars
  rw [String.toList_ofList]
  exact mem_lowerChars_go_of_isBlank hc h false

end DataQuality.Text
