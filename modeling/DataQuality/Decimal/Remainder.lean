import DataQuality.Decimal.Shortest

/-!
The remainder of a division of floating-point numbers whose quotient is cut to a whole number. It is
exact: two finite numbers are whole multiples of a common power of two.
-/

namespace DataQuality.Decimal

/-- A finite number as a whole multiple of a power of two, without its sign. -/
def ratio (x : Float) : Nat × Int :=
  let b := Binary.ofBits (x.toBits.toNat % 0x8000000000000000)
  (b.mantissa, b.exponent)

/-- The remainder has the sign of `x`. -/
def remainder (x y : Float) : Float :=
  if x.isNaN || y.isNaN || x.isInf || y == 0 then
    0 / 0
  else if y.isInf then
    x
  else
    let (m, p) := ratio x
    let (n, q) := ratio y
    let least := min p q
    let rest := (m * Nat.pow 2 (p - least).toNat) % (n * Nat.pow 2 (q - least).toNat)
    let r := (Float.ofNat rest).scaleB least
    if 0x8000000000000000 ≤ x.toBits.toNat then -r else r

end DataQuality.Decimal
