
namespace VolumeLifecycle.Decimal

/-- A 64-bit floating-point number, given by its bits: sign, eleven bits of exponent, fifty-two of
fraction. A finite one is `± m * 2 ^ q` with a natural `m` below `2 ^ 53` and an integer `q`, so
rounding is exact arithmetic. Two numbers are equal when their bits are, so `0.0` and `-0.0` differ. -/
structure Binary64 where
  bits : UInt64
  deriving DecidableEq, Repr, Inhabited

namespace Binary64

/-- The least exponent of a finite number, shared by all subnormal ones. -/
def minExponent : Int := -1074

def maxExponent : Int := 971

def isNegative (x : Binary64) : Bool :=
  Nat.pow 2 63 ≤ x.bits.toNat

def exponentField (x : Binary64) : Nat :=
  x.bits.toNat / Nat.pow 2 52 % Nat.pow 2 11

def fraction (x : Binary64) : Nat :=
  x.bits.toNat % Nat.pow 2 52

def significand (x : Binary64) : Nat :=
  if x.exponentField = 0 then x.fraction else x.fraction + Nat.pow 2 52

def exponent (x : Binary64) : Int :=
  if x.exponentField = 0 then minExponent else (x.exponentField : Int) + minExponent - 1

/-- The number with the given sign and magnitude `m · 2 ^ q`, for `m` below `2 ^ 53` and, unless
`q` is the least exponent, not below `2 ^ 52`. -/
def ofParts (negative : Bool) (m : Nat) (q : Int) : Binary64 :=
  let magnitude :=
    if m < Nat.pow 2 52 then m
    else (q - minExponent + 1).toNat * Nat.pow 2 52 + (m - Nat.pow 2 52)
  ⟨UInt64.ofNat (magnitude + if negative then Nat.pow 2 63 else 0)⟩

def zero (negative : Bool) : Binary64 :=
  ofParts negative 0 minExponent

def isZero (x : Binary64) : Bool :=
  x.exponentField = 0 && x.fraction = 0

def negate (x : Binary64) : Binary64 :=
  ⟨x.bits ^^^ UInt64.ofNat (Nat.pow 2 63)⟩

/-- A quotient of naturals rounded to the nearest natural, a half going to the even one. -/
def roundHalfEven (num den : Nat) : Nat :=
  let floor := num / den
  let rest := num % den
  if 2 * rest < den then floor
  else if den < 2 * rest then floor + 1
  else if floor % 2 = 0 then floor else floor + 1

def scaleDown (num den : Nat) (q : Int) : Nat × Nat :=
  if 0 ≤ q then (num, den * Nat.pow 2 q.toNat) else (num * Nat.pow 2 (-q).toNat, den)

/-- The exponent with which a positive quotient gets a significand of fifty-three bits, or the
least exponent if that is greater. -/
def quotientExponent (num den : Nat) : Int :=
  let low : Int := (num.log2 : Int) - den.log2 - 53
  let scaled := scaleDown num den low
  let q := if scaled.2 * Nat.pow 2 53 ≤ scaled.1 then low + 1 else low
  max q minExponent

/-- The magnitude nearest to `num / den`, a tie going to the even significand; nothing if that is
too large for a finite number. -/
def ofQuotient? (num den : Nat) : Option Binary64 :=
  if num = 0 then some (zero false)
  else
    let q := quotientExponent num den
    let scaled := scaleDown num den q
    let m := roundHalfEven scaled.1 scaled.2
    let parts := if m = Nat.pow 2 53 then (Nat.pow 2 52, q + 1) else (m, q)
    if maxExponent < parts.2 then none else some (ofParts false parts.1 parts.2)

def toQuotient (x : Binary64) : Nat × Nat :=
  if 0 ≤ x.exponent then (x.significand * Nat.pow 2 x.exponent.toNat, 1)
  else (x.significand, Nat.pow 2 (-x.exponent).toNat)

def mul? (x y : Binary64) : Option Binary64 :=
  ofQuotient? (x.toQuotient.1 * y.toQuotient.1) (x.toQuotient.2 * y.toQuotient.2)

/-- The quotient of two magnitudes, rounded; the divisor is not zero. -/
def div? (x y : Binary64) : Option Binary64 :=
  ofQuotient? (x.toQuotient.1 * y.toQuotient.2) (x.toQuotient.2 * y.toQuotient.1)

end Binary64
end VolumeLifecycle.Decimal
