import Mathlib.Data.List.Basic
import Mathlib.Data.List.Infix
import DataQuality.Proofs.Text.Trim
import DataQuality.Sql.Table

/-!
References to tables between their quotes. The check lets a reference pass exactly if it has some
content and holds nothing that ends its quotes or the statement, and then the quote character stands
at the two ends of the reference only. Main statements: `tableFault?_eq_none_iff`,
`TableQuote.append_wrap_eq_iff`.
-/

namespace DataQuality.Sql

structure IsSafeTable (quote : TableQuote) (table : String) : Prop where
  content : ∃ c ∈ table.toList, Text.isBlank c = false
  noNull : Char.ofNat 0 ∉ table.toList
  noTerminator : ';' ∉ table.toList
  noLineComment : ¬ ['-', '-'] <:+: table.toList
  noCommentStart : ¬ ['/', '*'] <:+: table.toList
  noCommentEnd : ¬ ['*', '/'] <:+: table.toList
  noQuote : ∀ c, quote.char? = some c → c ∉ table.toList

/-- What a fault says about a reference that it is found in. -/
def TableFault.Affects (quote : TableQuote) (table : String) : TableFault → Prop
  | .blank => ∀ c ∈ table.toList, Text.isBlank c = true
  | .nullByte => Char.ofNat 0 ∈ table.toList
  | .dangerous pattern => pattern ∈ dangerousPatterns ∧ pattern.toList <:+: table.toList
  | .holdsQuote c => quote.char? = some c ∧ c ∈ table.toList

section

variable {quote : TableQuote} {table : String}

theorem contains_iff {pattern : String} :
    Text.contains table pattern = true ↔ pattern.toList <:+: table.toList := by
  unfold Text.contains
  apply Text.occursIn_eq_true_iff

theorem IsSafeTable.not_affects (h : IsSafeTable quote table) (fault : TableFault) :
    ¬ fault.Affects quote table := by
  intro hfault
  cases fault with
  | blank =>
    obtain ⟨c, hc, hcontent⟩ := h.content
    rw [hfault c hc] at hcontent
    cases hcontent
  | nullByte => exact h.noNull hfault
  | dangerous pattern =>
    obtain ⟨hpattern, hinfix⟩ := hfault
    simp only [dangerousPatterns, List.mem_cons, List.not_mem_nil, or_false] at hpattern
    rcases hpattern with rfl | rfl | rfl | rfl
    . exact h.noTerminator ((List.singleton_infix_iff _ _).1 hinfix)
    . exact h.noLineComment hinfix
    . exact h.noCommentStart hinfix
    . exact h.noCommentEnd hinfix
  | holdsQuote c => exact h.noQuote c hfault.1 hfault.2

theorem isSafeTable_of_not_affects (h : ∀ fault : TableFault, ¬ fault.Affects quote table) :
    IsSafeTable quote table := by
  have hpattern (pattern : String) (hmem : pattern ∈ dangerousPatterns) :
      ¬ pattern.toList <:+: table.toList := fun hinfix => h (.dangerous pattern) ⟨hmem, hinfix⟩
  constructor
  case content =>
    have hblank := h .blank
    unfold TableFault.Affects at hblank
    simpa using hblank
  case noNull => exact h .nullByte
  case noTerminator =>
    rw [← List.singleton_infix_iff]
    exact hpattern ";" (by decide)
  case noLineComment => exact hpattern "--" (by decide)
  case noCommentStart => exact hpattern "/*" (by decide)
  case noCommentEnd => exact hpattern "*/" (by decide)
  case noQuote => exact fun c hc hmem => h (.holdsQuote c) ⟨hc, hmem⟩

theorem affects_of_tableFault? {fault : TableFault}
    (h : tableFault? table quote.char? = some fault) : fault.Affects quote table := by
  unfold tableFault? at h
  split at h
  . next hblank =>
    cases h
    rw [Bool.not_eq_true', Text.hasContent_eq_false_iff] at hblank
    exact hblank
  . split at h
    . next hnull =>
      cases h
      rwa [List.contains_iff_mem] at hnull
    . split at h
      . next pattern hpattern =>
        cases h
        exact ⟨List.mem_of_find?_eq_some hpattern, contains_iff.1 (List.find?_some hpattern)⟩
      . split at h
        . next c hc =>
          split at h
          . next hmem =>
            cases h
            rw [List.contains_iff_mem] at hmem
            exact ⟨hc, hmem⟩
          . cases h
        . cases h

theorem not_affects_of_tableFault? (h : tableFault? table quote.char? = none)
    (fault : TableFault) : ¬ fault.Affects quote table := by
  intro hfault
  unfold tableFault? at h
  split at h
  . cases h
  . next hblank =>
    split at h
    . cases h
    . next hnull =>
      split at h
      . cases h
      . next hpattern =>
        cases fault with
        | blank =>
          rw [Bool.not_eq_true', Text.hasContent_eq_false_iff] at hblank
          exact hblank hfault
        | nullByte =>
          rw [List.contains_iff_mem] at hnull
          exact hnull hfault
        | dangerous pattern =>
          rw [List.find?_eq_none] at hpattern
          exact hpattern pattern hfault.1 (contains_iff.2 hfault.2)
        | holdsQuote c =>
          obtain ⟨hc, hmem⟩ := hfault
          rw [hc] at h
          simp [hmem] at h

theorem tableFault?_eq_none_iff :
    tableFault? table quote.char? = none ↔ IsSafeTable quote table := by
  constructor
  . intro h
    exact isSafeTable_of_not_affects (not_affects_of_tableFault? h)
  . intro h
    cases hfault : tableFault? table quote.char? with
    | none => rfl
    | some fault => exact absurd (affects_of_tableFault? hfault) (h.not_affects fault)

end

namespace TableQuote

variable {quote : TableQuote} {c : Char}

theorem toList_wrap (h : quote.char? = some c) (table : String) :
    (quote.wrap table).toList = c :: table.toList ++ [c] := by
  unfold wrap
  rw [h]
  apply String.toList_ofList

theorem wrap_of_bare (h : quote.char? = none) (table : String) : quote.wrap table = table := by
  unfold wrap
  rw [h]

/-- The quotes around a reference are the only places of the quote character. -/
theorem append_wrap_eq_iff (h : quote.char? = some c) {lead : List Char} (hlead : c ∉ lead)
    {table : String} (htable : c ∉ table.toList) {before after : List Char} :
    lead ++ (quote.wrap table).toList = before ++ c :: after
      ↔
    (before = lead ∧ after = table.toList ++ [c])
      ∨ (before = lead ++ c :: table.toList ∧ after = []) := by
  have hwrapped : lead ++ (quote.wrap table).toList = lead ++ c :: table.toList ++ [c] := by
    rw [toList_wrap h, List.append_assoc]
  rw [hwrapped]
  constructor
  . intro heq
    cases List.eq_nil_or_concat after with
    | inl hnil =>
      subst hnil
      exact .inr ⟨(List.append_inj_left' heq rfl).symm, rfl⟩
    | inr hconcat =>
      obtain ⟨rest, d, rfl⟩ := hconcat
      rw [List.concat_eq_append, ← List.cons_append, ← List.append_assoc] at heq
      obtain ⟨hfront, hlast⟩ := List.append_inj' heq rfl
      rw [List.append_cons_inj_of_notMem hlead htable] at hfront
      obtain ⟨rfl, _, rfl⟩ := hfront
      exact .inl ⟨rfl, by rw [List.concat_eq_append, hlast]⟩
  . rintro (⟨rfl, rfl⟩ | ⟨rfl, rfl⟩)
    . simp
    . rfl

end TableQuote

end DataQuality.Sql
