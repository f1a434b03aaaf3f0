import VolumeLifecycle.Text.Fragment
import VolumeLifecycle.Toml.Value

namespace VolumeLifecycle.Toml

def splitSign : List Char → Bool × List Char
  | '-' :: rest => (true, rest)
  | '+' :: rest => (false, rest)
  | s => (false, s)

/-- A numeral without its underscores. Each of them must have a digit on both sides. -/
def dropUnderscores? (isDigit : Char → Bool) (s : List Char) : Option (List Char) :=
  match Text.splitChars '_' s with
  | [] => none
  | [_] => some s
  | first :: more =>
    let endsWell (piece : List Char) := piece.getLast?.any isDigit
    let startsWell (piece : List Char) := piece.head?.any isDigit
    if (first :: more.dropLast).all endsWell && more.all startsWell then some (first ++ more.flatten)
    else none

def baseValue? (base : Nat) (digits : List Char) : Option Nat := do
  let values ← digits.mapM Text.hexValue?
  if digits.isEmpty || values.any (base ≤ ·) then none
  return values.foldl (fun n d => base * n + d) 0

/-- An integer in another base than ten, behind the mark of its base. Without digits it has no
value. -/
def baseInteger? (base : Nat) (s : List Char) : Option Scalar := do
  if s.isEmpty then return .unvalued
  let digits ← dropUnderscores? Text.isHexDigit s
  return .integer (← baseValue? base digits)

def hasExtraZero (s digits : List Char) : Bool :=
  s.head? = some '0' && 1 < digits.length

/-- A decimal integer with an optional sign. One that has underscores may hold other characters as
well, and has no value then. -/
def decimalInteger? (s : List Char) : Option Scalar := do
  let magnitude := (splitSign s).2
  if hasExtraZero magnitude magnitude then none
  let (negative, digits) := splitSign (← dropUnderscores? Text.isHexDigit s)
  if Text.isDigits digits then
    let n : Int := Text.digitsValue 0 digits
    return .integer (if negative then -n else n)
  else return .unvalued

def floatParts (s : List Char) : Decimal.Literal :=
  let (negative, s) := splitSign s
  let isMark (c : Char) := c = 'e' || c = 'E'
  let mantissa := s.takeWhile fun c => !isMark c
  let exponent := match s.dropWhile fun c => !isMark c with
    | [] => none
    | _ :: rest => some (splitSign rest)
  let fraction := match mantissa.dropWhile (· ≠ '.') with
    | [] => none
    | _ :: rest => some rest
  ⟨negative, mantissa.takeWhile (· ≠ '.'), fraction, exponent⟩

/-- What follows the digits and underscores at the front, among which there must be a digit. -/
def skipDigits? (s : List Char) : Option (List Char) :=
  let isPart (c : Char) := Text.isDigit c || c = '_'
  if (s.takeWhile isPart).any Text.isDigit then some (s.dropWhile isPart) else none

/-- Whether a text has the form of a floating-point number: digits, then perhaps a point with more
digits, then perhaps an exponent. -/
def isFloatForm (s : List Char) : Bool :=
  let afterPoint? : List Char → Option (List Char)
    | '.' :: rest => skipDigits? rest
    | rest => some rest
  let afterExponent? : List Char → Option (List Char)
    | 'e' :: rest => skipDigits? (splitSign rest).2
    | 'E' :: rest => skipDigits? (splitSign rest).2
    | rest => some rest
  ((skipDigits? s).bind afterPoint?).bind afterExponent? = some []

/-- A floating-point number that is finite; one that is too large has no value. -/
def finite? (s : List Char) : Option Scalar := do
  let magnitude := (splitSign s).2
  let whole := magnitude.takeWhile fun c => Text.isDigit c || c = '_'
  if !isFloatForm magnitude || hasExtraZero magnitude (whole.filter Text.isDigit) then none
  let digits ← dropUnderscores? Text.isDigit s
  match (floatParts digits).nearest? with
  | some x => return .float (some x)
  | none => return .unvalued

/-- A number. What follows its first digits tells which kind it is. -/
def number? : List Char → Option Scalar
  | '0' :: 'x' :: rest => baseInteger? 16 rest
  | '0' :: 'o' :: rest => baseInteger? 8 rest
  | '0' :: 'b' :: rest => baseInteger? 2 rest
  | s =>
    let magnitude := (splitSign s).2
    let rest := magnitude.dropWhile Text.isDigit
    if magnitude.isEmpty then none
    else if rest.any fun c => c = '.' || c = 'e' || c = 'E' then finite? s
    else if rest.isEmpty || rest.head? = some '_' then decimalInteger? s
    else none

def nonFinite : List String :=
  ["inf", "+inf", "-inf", "nan", "+nan", "-nan"]

def twoDigits? (a b : Char) : Option Nat :=
  if Text.isDigit a && Text.isDigit b then some (Text.digitsValue 0 [a, b]) else none

def pad2 (n : Nat) : String :=
  (if n < 10 then "0" else "") ++ toString n

def daysInMonth (year month : Nat) : Nat :=
  if month = 2 then
    if year % 4 = 0 && (year % 100 ≠ 0 || year % 400 = 0) then 29 else 28
  else if [4, 6, 9, 11].contains month then 30
  else 31

def date? : List Char → Option (String × List Char)
  | y3 :: y2 :: y1 :: y0 :: '-' :: m1 :: m0 :: '-' :: d1 :: d0 :: rest => do
    let century ← twoDigits? y3 y2
    let yearOfCentury ← twoDigits? y1 y0
    let month ← twoDigits? m1 m0
    let day ← twoDigits? d1 d0
    if month < 1 || 12 < month || day < 1 || daysInMonth (100 * century + yearOfCentury) month < day
    then none
    return (pad2 century ++ pad2 yearOfCentury ++ "-" ++ pad2 month ++ "-" ++ pad2 day, rest)
  | _ => none

/-- The digits behind the point of a second, as nanoseconds without zeros at the end. -/
def fractionText (digits : List Char) : String :=
  match ((digits.take 9).reverse.dropWhile (· = '0')).reverse with
  | [] => ""
  | digits => "." ++ String.ofList digits

/-- The seconds of a time at the front, and what follows them. They may be left out, and may have a
fraction. -/
def seconds? : List Char → Option (String × List Char)
  | ':' :: a :: b :: rest => do
    let second ← twoDigits? a b
    if 60 < second then none
    match rest with
    | '.' :: rest =>
      let digits := rest.takeWhile Text.isDigit
      if digits.isEmpty then none
      return (pad2 second ++ fractionText digits, rest.dropWhile Text.isDigit)
    | _ => return (pad2 second, rest)
  | ':' :: _ => none
  | s => some ("00", s)

def time? : List Char → Option (String × List Char)
  | h1 :: h0 :: ':' :: m1 :: m0 :: rest => do
    let hour ← twoDigits? h1 h0
    let minute ← twoDigits? m1 m0
    if 23 < hour || 59 < minute then none
    let (seconds, rest) ← seconds? rest
    return (pad2 hour ++ ":" ++ pad2 minute ++ ":" ++ seconds, rest)
  | _ => none

def offset? : List Char → Option String
  | [] => some ""
  | ['Z'] => some "Z"
  | ['z'] => some "Z"
  | [sign, h1, h0, ':', m1, m0] => do
    let hour ← twoDigits? h1 h0
    let minute ← twoDigits? m1 m0
    if (sign ≠ '+' && sign ≠ '-') || 23 < hour || 59 < minute then none
    let sign := if sign = '-' && (hour ≠ 0 || minute ≠ 0) then "-" else "+"
    return sign ++ pad2 hour ++ ":" ++ pad2 minute
  | _ => none

/-- A date, a time of day, or both with or without an offset, in its normal form. -/
def moment? (s : List Char) : Option String :=
  match date? s with
  | some (date, []) => some date
  | some (date, separator :: rest) => do
    if separator ≠ 'T' && separator ≠ 't' && separator ≠ ' ' then none
    let (time, rest) ← time? rest
    let offset ← offset? rest
    return date ++ "T" ++ time ++ offset
  | none =>
    match time? s with
    | some (time, []) => some time
    | _ => none

def scalar? (s : List Char) : Option Scalar :=
  if s = "true".toList then some (.boolean true)
  else if s = "false".toList then some (.boolean false)
  else if nonFinite.any (·.toList = s) then some (.float none)
  else (moment? s).map .moment <|> number? s

end VolumeLifecycle.Toml
