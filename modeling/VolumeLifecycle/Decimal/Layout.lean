import VolumeLifecycle.Decimal.Shortest

namespace VolumeLifecycle.Decimal

/-- The choices that a number format makes once the digits are known. -/
structure Layout where
  /-- The least decimal exponent that is written plainly. -/
  plainFrom : Int
  /-- The first decimal exponent that is too large to be written plainly. -/
  plainBelow : Int
  /-- What is added to an integral number that is written plainly. -/
  integralTail : String
  /-- What stands between digits and exponent. -/
  exponentMark : String
  /-- What stands before an exponent that is not negative. -/
  exponentPlus : String

/-- Numbers in JSON texts: plain from `1e-5` on and below `1e16`, integral ones with `.0`, others
as in `1.25e+16` and `5e-324`. -/
def Layout.json : Layout :=
  { plainFrom := -5, plainBelow := 16, integralTail := ".0", exponentMark := "e"
    exponentPlus := "+" }

namespace Layout

/-- A number with digits before and after the point, padded with zeros where the point lies
outside of the digits. `top` is the decimal exponent of the first digit. -/
def plain (layout : Layout) (digits : List Char) (top : Int) : String :=
  if top < 0 then
    "0." ++ String.ofList (List.replicate (-top - 1).toNat '0' ++ digits)
  else
    let whole := top.toNat + 1
    if digits.length ≤ whole then
      String.ofList (digits ++ List.replicate (whole - digits.length) '0') ++ layout.integralTail
    else
      String.ofList (digits.take whole) ++ "." ++ String.ofList (digits.drop whole)

/-- A number with one digit before the point and a decimal exponent. -/
def scientific (layout : Layout) (digits : List Char) (top : Int) : String :=
  let mantissa := match digits with
    | [] => ""
    | [d] => String.ofList [d]
    | d :: rest => String.ofList (d :: '.' :: rest)
  let sign := if top < 0 then "-" else layout.exponentPlus
  mantissa ++ layout.exponentMark ++ sign ++ toString top.natAbs

/-- The text of a finite number: plain for moderate magnitudes, and with an exponent outside of
them. -/
def write (layout : Layout) (x : Binary64) : String :=
  let sign := if x.isNegative then "-" else ""
  if x.isZero then sign ++ layout.plain ['0'] 0
  else
    let d := x.shortest
    let digits := Nat.toDigits 10 d.digits
    let top := d.exponent + digits.length - 1
    if layout.plainFrom ≤ top && top < layout.plainBelow then sign ++ layout.plain digits top
    else sign ++ layout.scientific digits top

end Layout
end VolumeLifecycle.Decimal
