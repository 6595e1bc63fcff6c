import Mathlib
import DataQuality.Json.Value

/-!
The numbers that a document can hold are finite as floats: a whole number of 64 bits is far below
the greatest float. How far rounding can raise an exponent is bounded only as sharply as that needs.
-/

namespace DataQuality.Json.Number

open Float.Model Float.Model.UnpackedFloat Float.Model.Format

theorem log2_le_of_lt {n k : Nat} (h : n < 2 ^ (k + 1)) : n.log2 ≤ k := by
  by_cases hn : n = 0
  . simp [hn]
  . rwa [← Nat.lt_succ_iff, Nat.log2_lt hn]

theorem log2_shiftLeft_le (m n : Nat) : (m <<< n).log2 ≤ m.log2 + n := by
  apply log2_le_of_lt
  rw [Nat.shiftLeft_eq, Nat.add_right_comm, Nat.pow_add]
  exact Nat.mul_lt_mul_of_pos_right Nat.lt_log2_self (Nat.two_pow_pos n)

theorem mantissa_shiftRight_le (em : ExtendedMantissa) (n : Nat) :
    (em >>> n).mantissa ≤ em.mantissa := by
  induction n with
  | zero => exact Nat.le_refl _
  | succ n ih =>
    change (em >>> n).mantissa / 2 ≤ em.mantissa
    omega

theorem roundedMantissa_le (em : ExtendedMantissa) : em.roundedMantissa ≤ em.mantissa + 1 := by
  unfold ExtendedMantissa.roundedMantissa Accuracy.roundToNearestEven
  split <;> omega

theorem mantissa_ofMantissaAndAccuracy (m : Nat) (a : Accuracy) :
    (ExtendedMantissa.ofMantissaAndAccuracy m a).mantissa = m := by
  unfold ExtendedMantissa.ofMantissaAndAccuracy
  split <;> rfl

theorem targetExponent_binary64 (m : Nat) (e : Int) :
    binary64.targetExponent (totalExponent m e) = max (m.log2 + e - 52) (-1074) := by
  simp only [targetExponent, totalExponent, mantissaBits, minExponent]
  omega

/-- A zero, or a number whose exponent is at most `k`. -/
inductive Below (k : Int) : UnpackedFloat → Prop
  | zero (s : Sign) : Below k (.zero s)
  | finite (s : Sign) (m : Nat) {e : Int} (hm : 0 < m) (h : e ≤ k) : Below k (.finite s m e hm)

theorem Below.mono {j k : Int} {x : UnpackedFloat} (h : Below j x) (hle : j ≤ k) : Below k x := by
  cases h with
  | zero s => exact .zero s
  | finite s m hm he => exact .finite s m hm (Int.le_trans he hle)

theorem Below.isFinite {k : Int} {x : UnpackedFloat} (h : Below k x) : x.isFinite = true := by
  cases h <;> rfl

theorem Below.neg {k : Int} {x : UnpackedFloat} (h : Below k x) : Below k x.neg := by
  cases h with
  | zero s => exact .zero (-s)
  | finite s m hm he => exact .finite (-s) m hm he

theorem below_roundWithAccuracy {m : Nat} {e k : Int} (h : max e (-1074) + 2 * m.log2 ≤ k)
    (s : Sign) (a : Accuracy) : Below k (roundWithAccuracy binary64 s m e a) := by
  unfold roundWithAccuracy shiftToTargetExponent shiftToExponent
  simp only [targetExponent_binary64]
  split
  . exact .zero s
  . apply Below.finite
    generalize hn : (max ((m.log2 : Int) + e - 52) (-1074) - e).toNat = n
    generalize hem : ExtendedMantissa.ofMantissaAndAccuracy m a >>> n = em
    -- Rounding adds at most one digit, for which the second shift makes room.
    have hrounded : em.roundedMantissa.log2 ≤ m.log2 + 1 := by
      apply log2_le_of_lt
      have hshift := mantissa_shiftRight_le (ExtendedMantissa.ofMantissaAndAccuracy m a) n
      rw [hem, mantissa_ofMantissaAndAccuracy] at hshift
      have hround := roundedMantissa_le em
      have := Nat.lt_log2_self (n := m)
      rw [Nat.pow_succ]
      omega
    omega

theorem below_round {m : Nat} {e k : Int} (h : max e (-1074) + 2 * max 52 m.log2 ≤ k) (s : Sign) :
    Below k (UnpackedFloat.round binary64 s m e) := by
  unfold UnpackedFloat.round decreaseExponent
  simp only [targetExponent_binary64]
  apply below_roundWithAccuracy
  generalize hn : (e - max ((m.log2 : Int) + e - 52) (-1074)).toNat = n
  have := log2_shiftLeft_le m n
  omega

theorem below_ofInt {i : Int} (h : i.natAbs < 2 ^ 53) :
    Below 104 (UnpackedFloat.ofInt binary64 i) := by
  unfold UnpackedFloat.ofInt UnpackedFloat.normalize
  split
  . apply below_round
    have : (-i).toNat.log2 ≤ 52 := log2_le_of_lt (by omega)
    omega
  . exact .zero .positive
  . apply below_round
    have : i.toNat.log2 ≤ 52 := log2_le_of_lt (by omega)
    omega

theorem below_ofScientific {n : Nat} (h : n < 2 ^ 64) :
    Below 971 (UnpackedFloat.ofScientific binary64 n (0 : Nat)) := by
  unfold UnpackedFloat.ofScientific
  split
  . exact .zero .positive
  . have hleast : ¬ ((0 : Nat) : Int) < -((2 ^ binary64.exponentBits : Int) + n.log2) := by
      change ¬ (0 : Int) < -((2048 : Int) + n.log2)
      omega
    rw [if_neg (by decide), if_neg hleast, if_pos (by decide)]
    unfold UnpackedFloat.mul
    apply below_roundWithAccuracy
    have hbits : binary64.mantissaBits = 53 := rfl
    rw [hbits, Int.toNat_natCast, Nat.pow_zero, Nat.mul_one]
    have hdigits : n.log2 ≤ 63 := log2_le_of_lt h
    have hshift := log2_shiftLeft_le n 53
    omega

theorem exponentBias_binary64 : binary64.exponentBias = 1023 := by decide

theorem below_unpack {b : BitVec binary64.numBits} (h : unpackExponent b ≠ -1#_) :
    Below (max 1 ((unpackExponent b).toNat : Int) - 1075) (UnpackedFloat.unpack binary64 b) := by
  unfold UnpackedFloat.unpack
  rw [if_neg h]
  split
  . next hzero =>
    split
    . apply Below.zero
    . apply Below.finite
      rw [hzero, exponentBias_binary64]
      decide
  . apply Below.finite
    change (unpackExponent b).toNat - ((binary64.exponentBias : Int) + 52) ≤ _
    rw [exponentBias_binary64]
    omega

theorem below_of_isFinite {b : BitVec binary64.numBits}
    (h : (UnpackedFloat.unpack binary64 b).isFinite = true) :
    Below 971 (UnpackedFloat.unpack binary64 b) := by
  have hne : unpackExponent b ≠ -1#_ := by
    intro heq
    unfold UnpackedFloat.unpack at h
    rw [if_pos heq] at h
    split at h <;> cases h
  have hlt : (unpackExponent b).toNat < 2047 := by
    have hbound : (unpackExponent b).toNat < 2048 := (unpackExponent b).isLt
    have : (unpackExponent b).toNat ≠ 2047 := fun heq => hne (BitVec.eq_of_toNat_eq heq)
    omega
  apply (below_unpack hne).mono
  omega

theorem below_unpack_packComponents {k : Int} {exponent : BitVec 11} (s : Sign)
    (mantissa : BitVec 52) (hexponent : exponent.toNat < 2047)
    (h : max 1 (exponent.toNat : Int) - 1075 ≤ k) :
    Below k (UnpackedFloat.unpack binary64 (packComponents binary64 s exponent mantissa)) := by
  have hunpack : unpackExponent (packComponents binary64 s exponent mantissa) = exponent :=
    unpackExponent_packComponents
  have hne : exponent ≠ -1#_ := by
    intro heq
    rw [heq] at hexponent
    exact absurd hexponent (by decide)
  rw [← hunpack] at h hne
  exact (below_unpack hne).mono h

theorem below_unpack_pack {x : UnpackedFloat} {k : Int} (h : Below k x) (hleast : -1074 ≤ k)
    (hgreatest : k ≤ 971) : Below k (Float.Model.pack x).unpack := by
  change Below k (UnpackedFloat.unpack binary64 (UnpackedFloat.pack binary64 x))
  cases h with
  | zero s => exact below_unpack_packComponents s 0 (by decide) hleast
  | @finite s m e hm he =>
    unfold UnpackedFloat.pack
    simp only [exponentBias_binary64]
    generalize hbiased : (e + (1023 : Nat) + (52 : Nat)).toNat = biased
    have hlt : biased < 2047 := by omega
    have hnat : (BitVec.ofNat 11 biased).toNat = biased := by
      rw [BitVec.toNat_ofNat, Nat.mod_eq_of_lt (by omega)]
    rw [if_neg (by omega)]
    split
    . apply below_unpack_packComponents s
      . rwa [hnat]
      . rw [hnat]
        omega
    . exact below_unpack_packComponents s _ (by decide) hleast

theorem mantissa_lt_of_unpack {b : BitVec binary64.numBits} {s : Sign} {m : Nat} {e : Int}
    {hm : 0 < m} (h : UnpackedFloat.unpack binary64 b = .finite s m e hm) : m < 2 ^ 53 := by
  unfold UnpackedFloat.unpack at h
  simp only at h
  split at h
  . split at h <;> cases h
  . split at h
    . split at h
      . cases h
      . cases h
        have := (unpackMantissa b).isLt
        omega
    . cases h
      exact (1#1 ++ unpackMantissa b).isLt

theorem below_mul {x y : Float.Model} {j k : Int} (hx : Below j x.unpack) (hy : Below k y.unpack) :
    Below (max (j + k) (-1074) + 210) (x.unpack.mul binary64 y.unpack) := by
  generalize hxu : x.unpack = u at hx
  generalize hyu : y.unpack = v at hy
  cases hx with
  | zero s => cases hy <;> apply Below.zero
  | finite s m hm he =>
    cases hy with
    | zero s' => apply Below.zero
    | finite s' m' hm' he' =>
      have hproduct : m * m' < 2 ^ 53 * 2 ^ 53 :=
        Nat.mul_lt_mul'' (mantissa_lt_of_unpack hxu) (mantissa_lt_of_unpack hyu)
      have hlog : (m * m').log2 ≤ 105 := log2_le_of_lt hproduct
      apply below_roundWithAccuracy
      omega

theorem isFinite_ofModel_pack {x : UnpackedFloat} (h : Below 971 x) :
    (Float.ofModel (Float.Model.pack x)).isFinite = true :=
  (below_unpack_pack h (by decide) (by decide)).isFinite

theorem isFinite_neg {x : Float} (h : x.isFinite = true) : (-x).isFinite = true :=
  isFinite_ofModel_pack (below_of_isFinite h).neg

theorem isFinite_ofNat {n : Nat} (h : n < 2 ^ 64) : (Float.ofNat n).isFinite = true := by
  change (Float.ofScientific n false 0).isFinite = true
  unfold Float.ofScientific
  split
  . next hsmall =>
    -- The number as it is, times one.
    have hnumber : Below 104 n.toUInt64.toFloat.toModel.unpack := by
      apply below_unpack_pack _ (by decide) (by decide)
      apply below_ofInt
      rw [Int.natAbs_natCast]
      exact Nat.lt_of_le_of_lt (Nat.mod_le _ _) hsmall.1
    have hone : Below 0 (Float.ofBits 0x3FF0000000000000).toModel.unpack :=
      .finite .positive (2 ^ 52) (e := -52) (by decide) (by decide)
    apply isFinite_ofModel_pack
    exact (below_mul hnumber hone).mono (by decide)
  . exact isFinite_ofModel_pack (below_ofScientific h)

/-- The numbers that a document can hold. -/
def InRange : Number → Prop
  | .int n => leastInt ≤ n ∧ n ≤ greatestInt
  | .float x => x.isFinite = true

theorem isFinite_toFloat {n : Number} (h : n.InRange) : n.toFloat.isFinite = true := by
  cases n with
  | float x => exact h
  | int i =>
    have hbound : i.natAbs < 2 ^ 64 := by
      obtain ⟨hleast, hgreatest⟩ := h
      unfold leastInt at hleast
      unfold greatestInt at hgreatest
      omega
    change (if i < 0 then -Float.ofNat i.natAbs else Float.ofNat i.natAbs).isFinite = true
    split
    . exact isFinite_neg (isFinite_ofNat hbound)
    . exact isFinite_ofNat hbound

end DataQuality.Json.Number
