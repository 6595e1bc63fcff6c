import DataQuality.Proofs.Text.Case
import DataQuality.Sql.Name

/-!
Names of suites, checks and rules. Main statement: `Sql.nameFault?_eq_none_iff_isName`.
-/

namespace DataQuality.Sql

/-- ASCII letters, digits and underscores, 1 to 128 bytes of them and no digit in front. -/
structure IsName (name : String) : Prop where
  nonempty : 1 ≤ name.utf8ByteSize
  limited : name.utf8ByteSize ≤ 128
  characters : ∀ c ∈ name.toList, c.isAlpha = true ∨ c.isDigit = true ∨ c = '_'
  start : ∀ c, name.toList.head? = some c → c.isDigit = false

theorem isAsciiWord_iff {c : Char} :
    Text.isAsciiWord c = true ↔ c.isAlpha = true ∨ c.isDigit = true ∨ c = '_' := by
  unfold Text.isAsciiWord Char.isAlphanum
  simp only [Bool.or_eq_true, beq_iff_eq, or_assoc]

theorem isNameStart_iff {c : Char} (h : Text.isAsciiWord c = true) :
    isNameStart c = true ↔ c.isDigit = false := by
  have hascii := Text.lt_of_isAsciiWord h
  revert h
  apply Text.forall_ascii
    (p := fun c => Text.isAsciiWord c = true → (isNameStart c = true ↔ c.isDigit = false)) _ hascii
  decide

theorem hasNameForm_iff {s : List Char} :
    hasNameForm s = true
      ↔
    s ≠ [] ∧ (∀ c ∈ s, Text.isAsciiWord c = true) ∧ ∀ c, s.head? = some c → c.isDigit = false := by
  cases s with
  | nil => simp [hasNameForm]
  | cons c r =>
    unfold hasNameForm
    rw [Bool.and_eq_true, List.all_eq_true, List.forall_mem_cons]
    simp only [ne_eq, reduceCtorEq, not_false_eq_true, true_and, List.head?_cons, Option.some.injEq,
      forall_eq']
    constructor
    . rintro ⟨hstart, hr⟩
      have hword : Text.isAsciiWord c = true := by
        unfold isNameStart at hstart
        unfold Text.isAsciiWord Char.isAlphanum
        rw [Bool.or_eq_true] at hstart ⊢
        exact hstart.imp_left fun h => by rw [h]; rfl
      exact ⟨⟨hword, hr⟩, (isNameStart_iff hword).1 hstart⟩
    . rintro ⟨⟨hword, hr⟩, hdigit⟩
      exact ⟨(isNameStart_iff hword).2 hdigit, hr⟩

theorem nameFault?_eq_none_iff_isName {name : String} : nameFault? name = none ↔ IsName name := by
  have hnonempty : name.toList ≠ [] ↔ 1 ≤ name.utf8ByteSize := by
    rw [← Text.byteLength_toList]
    cases name.toList with
    | nil => simp
    | cons c r =>
      have := c.utf8Size_pos
      simp only [Text.byteLength_cons, ne_eq, reduceCtorEq, not_false_eq_true, true_iff]
      omega
  rw [nameFault?_eq_none_iff, hasNameForm_iff, hnonempty, Text.byteLength_toList]
  simp only [isAsciiWord_iff]
  constructor
  . intro ⟨⟨hnonempty, hcharacters, hstart⟩, hlimited⟩
    exact ⟨hnonempty, hlimited, hcharacters, hstart⟩
  . intro h
    exact ⟨⟨h.nonempty, h.characters, h.start⟩, h.limited⟩

theorem IsName.isAscii {name : String} (h : IsName name) : Text.IsAscii name.toList := by
  intro c hc
  exact Text.lt_of_isAsciiWord (isAsciiWord_iff.2 (h.characters c hc))

theorem IsName.not_isBlank_of_mem_lower {name : String} (h : IsName name) {c : Char}
    (hc : c ∈ (Text.lower name).toList) : Text.isBlank c = false := by
  rw [Text.toList_lower h.isAscii, List.mem_map] at hc
  obtain ⟨d, hd, rfl⟩ := hc
  have hword := isAsciiWord_iff.2 (h.characters d hd)
  revert hword
  apply Text.forall_ascii
    (p := fun d => Text.isAsciiWord d = true → Text.isBlank d.toLower = false) _ (h.isAscii d hd)
  decide

theorem IsName.not_isBlank {name : String} (h : IsName name) {c : Char} (hc : c ∈ name.toList) :
    Text.isBlank c = false := by
  cases hblank : Text.isBlank c with
  | false => rfl
  | true =>
    rw [h.not_isBlank_of_mem_lower (Text.mem_lower_of_isBlank hblank hc)] at hblank
    cases hblank

end DataQuality.Sql
