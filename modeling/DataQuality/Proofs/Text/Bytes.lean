import Mathlib.Data.List.Lex
import Mathlib.Data.String.Basic

/-!
The bytes of texts in UTF-8. Texts are compared by their code points, which is how their bytes are
compared. Main statement: `bytes_lt_bytes_iff`.
-/

namespace DataQuality.Text

/-- The bytes of a text in UTF-8. -/
def bytes (s : String) : List UInt8 := s.toUTF8.data.toList

theorem bytes_eq_flatMap (s : String) : bytes s = s.toList.flatMap String.utf8EncodeChar := by
  unfold bytes
  rw [String.toUTF8_eq_toByteArray, ← String.utf8Encode_toList, List.utf8Encode,
    List.data_toByteArray]

theorem ofNat_eq_ofNat_iff {m n : Nat} (hm : m < UInt8.size) (hn : n < UInt8.size) :
    UInt8.ofNat m = UInt8.ofNat n ↔ m = n := by
  rw [← UInt8.toNat_inj, UInt8.toNat_ofNat_of_lt' hm, UInt8.toNat_ofNat_of_lt' hn]

/-- The bytes of different characters differ before either of them ends. -/
theorem utf8EncodeChar_append_lt {c d : Char} (h : c < d) (u v : List UInt8) :
    String.utf8EncodeChar c ++ u < String.utf8EncodeChar d ++ v := by
  have hlt : c.val.toNat < d.val.toNat := h
  have hd : d.val.toNat < 0x110000 := by
    rcases d.valid with hd | hd
    . exact Nat.lt_trans hd (by decide)
    . exact hd.2
  have hdigits (n : Nat) (hn : n < 0x110000) :
      n / 64 / 64 = n / 4096 ∧ n / 4096 / 64 = n / 262144 ∧ n / 262144 % 8 = n / 262144 := by
    rw [Nat.div_div_eq_div_mul, Nat.div_div_eq_div_mul]
    exact ⟨rfl, rfl, Nat.mod_eq_of_lt (by omega)⟩
  have hc' := hdigits c.val.toNat (Nat.lt_trans hlt hd)
  have hd' := hdigits d.val.toNat hd
  unfold String.utf8EncodeChar
  dsimp only
  generalize c.val.toNat = m at hlt hc' ⊢
  generalize d.val.toNat = n at hlt hd hd' ⊢
  -- A longer code starts with a greater byte; codes of one length are digits to the base 64.
  split_ifs
  all_goals
    simp only [List.cons_append, List.nil_append, List.cons_lt_cons_iff]
    simp (disch := simp only [UInt8.size]; omega) only [UInt8.ofNat_lt_iff_lt, ofNat_eq_ofNat_iff]
    omega

theorem flatMap_utf8EncodeChar_lt {s t : List Char} (h : s < t) :
    s.flatMap String.utf8EncodeChar < t.flatMap String.utf8EncodeChar := by
  induction s generalizing t with
  | nil =>
    cases t with
    | nil => exact absurd h (List.lt_irrefl [])
    | cons d t =>
      rw [List.flatMap_nil, List.flatMap_cons]
      cases hd : String.utf8EncodeChar d with
      | nil => exact absurd hd String.utf8EncodeChar_ne_nil
      | cons b bs => exact List.nil_lt_cons b _
  | cons c s ih =>
    cases t with
    | nil => exact absurd h (List.not_lt_nil _)
    | cons d t =>
      rw [List.flatMap_cons, List.flatMap_cons]
      rcases List.cons_lt_cons_iff.1 h with hcd | ⟨rfl, hst⟩
      . exact utf8EncodeChar_append_lt hcd _ _
      . exact List.append_left_lt (ih hst)

theorem bytes_lt_bytes_iff {s t : String} : bytes s < bytes t ↔ s < t := by
  have hlt {s t : String} (h : s < t) : bytes s < bytes t := by
    rw [bytes_eq_flatMap, bytes_eq_flatMap]
    exact flatMap_utf8EncodeChar_lt (String.lt_iff_toList_lt.1 h)
  constructor
  . intro h
    rcases lt_trichotomy s t with hst | rfl | hts
    . exact hst
    . exact absurd h (List.lt_irrefl _)
    . exact absurd (hlt hts) (List.lt_asymm h)
  . exact hlt

end DataQuality.Text
