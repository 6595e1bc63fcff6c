import DataQuality.Decimal.Read
import DataQuality.Text.Blank

/-!
Instants of universal time on the proleptic Gregorian calendar, their written form, and the relaxed
reading of RFC 3339 dates: a space may stand for the `T`, and white space may surround the parts.
-/

namespace DataQuality.Time

/-- An instant: seconds since the start of 1970, and nanoseconds within the second. A leap second is
the second before it with at least `10 ^ 9` nanoseconds. -/
structure Timestamp where
  seconds : Int
  nanos : Nat
  deriving DecidableEq, Inhabited

inductive ReadError
  | tooShort
  | invalid
  | outOfRange
  | tooLong
  deriving DecidableEq

def ReadError.message : ReadError → String
  | .tooShort => "premature end of input"
  | .invalid => "input contains invalid characters"
  | .outOfRange => "input is out of range"
  | .tooLong => "trailing input"

/-- The number of days from the start of 1970 to a date. Years are counted from March, so that a
leap day ends its year; 400 years have 146097 days. -/
def daysFromDate (year : Int) (month day : Nat) : Int :=
  let year := if month ≤ 2 then year - 1 else year
  let era := Int.fdiv year 400
  let yearOfEra := year - era * 400
  let dayOfYear : Int := (153 * (if month ≤ 2 then month + 9 else month - 3) + 2) / 5 + day - 1
  let dayOfEra := yearOfEra * 365 + yearOfEra / 4 - yearOfEra / 100 + dayOfYear
  era * 146097 + dayOfEra - 719468

/-- The year, the month and the day of a number of days since the start of 1970. -/
def dateOfDays (days : Int) : Int × Nat × Nat :=
  let days := days + 719468
  let era := Int.fdiv days 146097
  let dayOfEra := (days - era * 146097).toNat
  let yearOfEra := (dayOfEra - dayOfEra / 1460 + dayOfEra / 36524 - dayOfEra / 146096) / 365
  let dayOfYear := dayOfEra - (365 * yearOfEra + yearOfEra / 4 - yearOfEra / 100)
  let shifted := (5 * dayOfYear + 2) / 153
  let day := dayOfYear - (153 * shifted + 2) / 5 + 1
  let month := if shifted < 10 then shifted + 3 else shifted - 9
  let year : Int := yearOfEra + era * 400
  (if month ≤ 2 then year + 1 else year, month, day)

def isLeapYear (year : Int) : Bool :=
  Int.emod year 4 = 0 && (Int.emod year 100 != 0 || Int.emod year 400 = 0)

def daysInMonth (year : Int) (month : Nat) : Nat :=
  if month = 2 then
    if isLeapYear year then 29 else 28
  else if month ∈ [4, 6, 9, 11] then 30
  else 31

/-- A number in decimal digits, with zeros in front up to the given width. -/
def padded (width n : Nat) : String :=
  let digits := Nat.toDigits 10 n
  .ofList (List.replicate (width - digits.length) '0' ++ digits)

def writeYear (year : Int) : String :=
  if 0 ≤ year && year ≤ 9999 then
    padded 4 year.toNat
  else
    (if year < 0 then "-" else "+") ++ padded 4 year.natAbs

/-- The fraction of a second with three, six or nine places, or nothing for a whole second. -/
def writeFraction (nanos : Nat) : String :=
  if nanos = 0 then ""
  else if nanos % 1000000 = 0 then "." ++ padded 3 (nanos / 1000000)
  else if nanos % 1000 = 0 then "." ++ padded 6 (nanos / 1000)
  else "." ++ padded 9 nanos

def Timestamp.writeLocal (t : Timestamp) : String :=
  let days := Int.fdiv t.seconds 86400
  let second := (t.seconds - days * 86400).toNat
  let (year, month, day) := dateOfDays days
  let leap := t.nanos / 1000000000
  writeYear year ++ "-" ++ padded 2 month ++ "-" ++ padded 2 day ++ "T"
    ++ padded 2 (second / 3600) ++ ":" ++ padded 2 (second / 60 % 60) ++ ":"
    ++ padded 2 (second % 60 + leap) ++ writeFraction (t.nanos % 1000000000)

/-- The form of JSON documents, which ends in `Z`. -/
def Timestamp.text (t : Timestamp) : String := t.writeLocal ++ "Z"

/-- The form of database cells, which ends in the offset of universal time. -/
def Timestamp.offsetText (t : Timestamp) : String := t.writeLocal ++ "+00:00"

/-- Reads a number of `least` to `most` digits. -/
def number (least most : Nat) (s : List Char) : Except ReadError (Nat × List Char) :=
  let digits := (s.take most).takeWhile Decimal.isDigit
  if digits.length < least then
    throw (if digits.length = s.length then .tooShort else .invalid)
  else
    pure (Decimal.ofDigits digits, s.drop digits.length)

/-- A number after optional white space, within the given limits. -/
def field (most low high : Nat) (s : List Char) : Except ReadError (Nat × List Char) := do
  let (n, rest) ← number 1 most (Text.trimStart s)
  if low ≤ n && n ≤ high then pure (n, rest) else throw .outOfRange

/-- A year: four digits at most, or any number of them after a sign. -/
def yearField (s : List Char) : Except ReadError (Int × List Char) := do
  let s := Text.trimStart s
  let (negative, digits, rest) ←
    match s with
    | '-' :: r => do
      let (n, rest) ← number 1 r.length r
      pure (true, n, rest)
    | '+' :: r => do
      let (n, rest) ← number 1 r.length r
      pure (false, n, rest)
    | _ => do
      let (n, rest) ← number 1 4 s
      pure (false, n, rest)
  if digits ≤ 262142 then
    pure (if negative then -(digits : Int) else digits, rest)
  else
    throw .outOfRange

def mark (c : Char) (s : List Char) : Except ReadError (List Char) :=
  match Text.trimStart s with
  | [] => throw .tooShort
  | d :: r => if d == c then pure r else throw .invalid

/-- The fraction of a second in nanoseconds; places after the ninth are dropped. -/
def fraction (s : List Char) : Except ReadError (Nat × List Char) :=
  match s with
  | '.' :: r => do
    let (n, rest) ← number 1 9 r
    let places := r.length - rest.length
    pure (n * Nat.pow 10 (9 - places), rest.dropWhile Decimal.isDigit)
  | _ => pure (0, s)

/-- The distance from universal time in seconds: a letter `Z`, the word `UTC`, or a sign, two digits
of hours and two digits of minutes, with colons or white space between them. -/
def offset (s : List Char) : Except ReadError (Int × List Char) :=
  let s := Text.trimStart s
  if (s.take 3).map Char.toUpper == ['U', 'T', 'C'] then
    pure (0, s.drop 3)
  else
    match s with
    | 'Z' :: r => pure (0, r)
    | 'z' :: r => pure (0, r)
    | [] => throw .tooShort
    | c :: r =>
      if c == '+' then numeric 1 r
      else if c == '-' || c == '−' then numeric (-1) r
      else throw .invalid
where
  numeric (sign : Int) (s : List Char) : Except ReadError (Int × List Char) := do
    let (hours, rest) ← pair s
    let rest := rest.dropWhile fun c => c == ':' || Text.isBlank c
    let (minutes, rest) ← pair rest
    if minutes < 60 then
      pure (sign * (hours * 3600 + minutes * 60), rest)
    else
      throw .outOfRange
  pair : List Char → Except ReadError (Nat × List Char)
    | a :: b :: r =>
      if Decimal.isDigit a && Decimal.isDigit b then
        pure (10 * Decimal.digitValue a + Decimal.digitValue b, r)
      else
        throw .invalid
    | _ => throw .tooShort

/-- Reads a date and a time with its distance from universal time. -/
def Timestamp.read (s : List Char) : Except ReadError Timestamp := do
  let (year, s) ← yearField s
  let s ← mark '-' s
  let (month, s) ← field 2 1 12 s
  let s ← mark '-' s
  let (day, s) ← field 2 1 31 s
  let s ← match s with
    | [] => throw .tooShort
    | c :: r => if c == 'T' || c == 't' || c == ' ' then pure r else throw .invalid
  let (hour, s) ← field 2 0 23 s
  let s ← mark ':' s
  let (minute, s) ← field 2 0 59 s
  let s ← mark ':' s
  let (second, s) ← field 2 0 60 s
  let (nanos, s) ← fraction s
  let (distance, s) ← offset s
  if !(Text.trimStart s).isEmpty then
    throw .tooLong
  else if daysInMonth year month < day || 86400 ≤ distance.natAbs then
    throw .outOfRange
  else
    let leap := second = 60
    let time := hour * 3600 + minute * 60 + if leap then 59 else second
    pure ⟨daysFromDate year month day * 86400 + time - distance,
      if leap then nanos + 1000000000 else nanos⟩

end DataQuality.Time
