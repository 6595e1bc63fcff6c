import DataQuality.Decimal.Shortest

/-!
The written forms of floating-point numbers. A `Layout` fixes which magnitudes are written in
positional notation and how the others are; the digits are always the shortest that read back.
-/

namespace DataQuality.Decimal

structure Layout where
  /-- The least and the greatest decade written in positional notation, if there are such limits. -/
  positional : Option (Int × Int)
  /-- Whether a whole number in positional notation ends in a point and a zero. -/
  wholePoint : Bool
  /-- Whether an exponent that is not negative carries a sign. -/
  plusSign : Bool

/-- Texts and messages: positional at every magnitude, whole numbers without a point. -/
def Layout.plain : Layout := ⟨none, false, false⟩

/-- JSON documents: positional from `1e-5` up to below `1e16`. -/
def Layout.json : Layout := ⟨some (-5, 15), true, true⟩

/-- Diagnostic output: as in JSON, but an exponent carries no plus sign. -/
def Layout.diagnostic : Layout := ⟨some (-5, 15), true, false⟩

def digitsOf (n : Nat) : List Char := Nat.toDigits 10 n

def zeros (n : Nat) : List Char := List.replicate n '0'

/-- Positional notation of `coefficient * 10 ^ exponent`. -/
def writePositional (wholePoint : Bool) (x : Scientific) : List Char :=
  let digits := digitsOf x.coefficient
  if 0 ≤ x.exponent then
    digits ++ zeros x.exponent.toNat ++ if wholePoint then ['.', '0'] else []
  else
    let places := (-x.exponent).toNat
    if places < digits.length then
      digits.take (digits.length - places) ++ '.' :: digits.drop (digits.length - places)
    else
      '0' :: '.' :: zeros (places - digits.length) ++ digits

/-- Scientific notation with one digit before the point. -/
def writeScientific (plusSign : Bool) (x : Scientific) : List Char :=
  let digits := digitsOf x.coefficient
  let exponent := x.exponent + (digits.length - 1 : Nat)
  let significand :=
    match digits with
    | d :: [] => [d]
    | d :: rest => d :: '.' :: rest
    | [] => []
  let sign := if exponent < 0 then ['-'] else if plusSign then ['+'] else []
  significand ++ 'e' :: sign ++ digitsOf exponent.natAbs

def Layout.writeMagnitude (layout : Layout) (x : Scientific) : List Char :=
  let decade := x.exponent + (digitCount x.coefficient - 1 : Nat)
  match layout.positional with
  | none => writePositional layout.wholePoint x
  | some (least, greatest) =>
    if x.coefficient = 0 || (least ≤ decade && decade ≤ greatest) then
      writePositional layout.wholePoint x
    else
      writeScientific layout.plusSign x

/-- The magnitude of a finite number as its shortest decimal. -/
def magnitude (x : Float) : Scientific :=
  let bits := x.toBits.toNat % 0x8000000000000000
  if bits = 0 then ⟨0, 0⟩ else shortest (Binary.ofBits bits)

def isNegative (x : Float) : Bool := 0x8000000000000000 ≤ x.toBits.toNat

def Layout.write (layout : Layout) (x : Float) : String :=
  if x.isNaN then
    "NaN"
  else
    let sign := if isNegative x then ['-'] else []
    if x.isInf then
      .ofList (sign ++ ['i', 'n', 'f'])
    else
      .ofList (sign ++ layout.writeMagnitude (magnitude x))

/-- The text of a number in messages and rendered SQL. -/
def plain (x : Float) : String := Layout.plain.write x

end DataQuality.Decimal
