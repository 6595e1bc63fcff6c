/-!
The shortest decimal that reads back to a given floating-point number. A positive finite number is
`mantissa * 2 ^ exponent`; the reals that round to it form an interval, and the answer is a point of
the coarsest decimal grid that has a point in this interval, the one nearest to the number.
-/

namespace DataQuality.Decimal

/-- The magnitude `mantissa * 2 ^ exponent` of a finite number. `onPower` says that the number below
is half as far away as the number above. -/
structure Binary where
  mantissa : Nat
  exponent : Int
  onPower : Bool

/-- The magnitude `coefficient * 10 ^ exponent`. -/
structure Scientific where
  coefficient : Nat
  exponent : Int
  deriving DecidableEq

namespace Binary

/-- Decodes the 64 bits of a finite number, without its sign. -/
def ofBits (bits : Nat) : Binary :=
  let fraction := bits % 0x10000000000000
  let biased := bits / 0x10000000000000 % 0x800
  if biased = 0 then
    ⟨fraction, -1074, false⟩
  else
    ⟨0x10000000000000 + fraction, Int.ofNat biased - 1075, fraction = 0 && biased != 1⟩

def scaleUp (x : Binary) : Nat := Nat.pow 2 x.exponent.toNat

def scaleDown (x : Binary) : Nat := Nat.pow 2 (-x.exponent).toNat

end Binary

/-- The number of decimal digits of a positive number. -/
def digitCount (n : Nat) : Nat := (Nat.toDigits 10 n).length

/-- The greatest `d` with `10 ^ d * denominator ≤ numerator`, both positive. -/
def decade (numerator denominator : Nat) : Int :=
  if denominator ≤ numerator then
    (digitCount (numerator / denominator) : Int) - 1
  else
    go 400 1 numerator
where
  go : (fuel places numerator : Nat) → Int
    | 0, places, _ => -places
    | fuel + 1, places, numerator =>
      let numerator := 10 * numerator
      if denominator ≤ numerator then -places else go fuel (places + 1) numerator

/-- The point of the grid of spacing `10 ^ exponent` that is nearest to `x` among the two neighbours
of `x` that lie in its rounding interval, if there is one. Lengths are measured in quarters of the
last binary place of `x`. -/
def nearestOnGrid? (x : Binary) (exponent : Int) : Option Scientific :=
  let unit := 4 * Nat.pow 10 exponent.toNat * x.scaleDown
  let scale := x.scaleUp * Nat.pow 10 (-exponent).toNat
  let value := 4 * x.mantissa * scale
  let low := (4 * x.mantissa - if x.onPower then 1 else 2) * scale
  let high := (4 * x.mantissa + 2) * scale
  let inside (point : Nat) : Bool :=
    if x.mantissa % 2 = 0 then low ≤ point && point ≤ high else low < point && point < high
  let below := value / unit
  let hitBelow := inside (below * unit)
  let hitAbove := inside ((below + 1) * unit)
  let above := 2 * (value - below * unit)
  if hitBelow && hitAbove then
    if above < unit || (above = unit && below % 2 = 0) then
      some ⟨below, exponent⟩
    else
      some ⟨below + 1, exponent⟩
  else if hitBelow then
    some ⟨below, exponent⟩
  else if hitAbove then
    some ⟨below + 1, exponent⟩
  else
    none

/-- Removes the zeros at the end of the coefficient. -/
def Scientific.normalize (x : Scientific) : Scientific :=
  go (digitCount x.coefficient) x.coefficient x.exponent
where
  go : (fuel coefficient : Nat) → Int → Scientific
    | 0, coefficient, exponent => ⟨coefficient, exponent⟩
    | fuel + 1, coefficient, exponent =>
      if coefficient % 10 = 0 && coefficient != 0 then
        go fuel (coefficient / 10) (exponent + 1)
      else
        ⟨coefficient, exponent⟩

/-- The shortest decimal that reads back to the positive number `x`. Seventeen digits are always
enough. -/
def shortest (x : Binary) : Scientific :=
  let top := decade (x.mantissa * x.scaleUp) x.scaleDown
  let hit := (List.range 17).findSome? fun (n : Nat) => nearestOnGrid? x (top - n)
  (hit.getD ⟨0, 0⟩).normalize

end DataQuality.Decimal
