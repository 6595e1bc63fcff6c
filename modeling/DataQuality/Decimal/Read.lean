/-!
Reading floating-point numbers: the nearest number to a decimal, and the number that a text spells.
-/

namespace DataQuality.Decimal

def isDigit (c : Char) : Bool := '0' ≤ c && c ≤ '9'

def digitValue (c : Char) : Nat := c.toNat - '0'.toNat

/-- The number spelled by decimal digits. -/
def ofDigits (digits : List Char) : Nat :=
  digits.foldl (fun n c => 10 * n + digitValue c) 0

/-- The floating-point number nearest to `coefficient * 10 ^ exponent`. Decimals far outside the
range of the format are decided by their magnitude. -/
def nearest (coefficient : Nat) (exponent : Int) : Float :=
  let top := exponent + (Nat.toDigits 10 coefficient).length
  if coefficient = 0 || top < -400 then
    0
  else if 400 < top then
    1 / 0
  else
    Float.ofScientific coefficient (exponent < 0) exponent.natAbs

/-- An optionally signed whole number that takes the rest of the text. -/
def exponent? (s : List Char) : Option Int :=
  let (negative, digits) :=
    match s with
    | '-' :: r => (true, r)
    | '+' :: r => (false, r)
    | _ => (false, s)
  if digits.isEmpty || !digits.all isDigit then
    none
  else
    some (if negative then -(ofDigits digits : Int) else ofDigits digits)

/-- A decimal without sign: digits with at most one point among them, then possibly an exponent. -/
def unsigned? (s : List Char) : Option Float := do
  let whole := s.takeWhile isDigit
  let (places, rest) :=
    match s.dropWhile isDigit with
    | '.' :: r => (r.takeWhile isDigit, r.dropWhile isDigit)
    | r => ([], r)
  if whole.isEmpty && places.isEmpty then
    none
  else
    let coefficient := ofDigits (whole ++ places)
    match rest with
    | [] => some (nearest coefficient (-places.length))
    | c :: r =>
      if c == 'e' || c == 'E' then
        (exponent? r).map fun e => nearest coefficient (e - places.length)
      else
        none

/-- The number that a text spells: a decimal, an infinity or a NaN, with an optional sign. -/
def float? (s : String) : Option Float :=
  let (negative, magnitude) :=
    match s.toList with
    | '-' :: r => (true, r)
    | '+' :: r => (false, r)
    | r => (false, r)
  let word := String.ofList (magnitude.map Char.toLower)
  let value :=
    if word == "inf" || word == "infinity" then
      some (1.0 / 0.0)
    else if word == "nan" then
      some (0.0 / 0.0)
    else
      unsigned? magnitude
  value.map fun x => if negative then -x else x

end DataQuality.Decimal
