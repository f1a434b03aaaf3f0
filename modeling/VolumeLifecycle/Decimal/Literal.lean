import VolumeLifecycle.Decimal.Binary64
import VolumeLifecycle.Text.Unsigned

namespace VolumeLifecycle.Decimal

/-- A decimal literal by its parts. The parts are digits; `fraction` and `exponent` are absent
when the literal has no point and no exponent mark. -/
structure Literal where
  negative : Bool
  whole : List Char
  fraction : Option (List Char)
  exponent : Option (Bool × List Char)
  deriving DecidableEq, Repr

namespace Literal

def isIntegral (l : Literal) : Bool :=
  l.fraction.isNone && l.exponent.isNone

def wholeValue (l : Literal) : Nat :=
  Text.digitsValue 0 l.whole

def exponentValue (l : Literal) : Int :=
  match l.exponent with
  | none => 0
  | some (negative, digits) =>
    let n : Int := Text.digitsValue 0 digits
    if negative then -n else n

/-- The number nearest to the exact value; nothing if that is too large. Exponents far outside the
range are settled without computing the power. -/
def nearest? (l : Literal) : Option Binary64 :=
  let digits := l.whole ++ l.fraction.getD []
  let m := Text.digitsValue 0 digits
  let e := l.exponentValue - (l.fraction.getD []).length
  let magnitude? :=
    if m = 0 then some (Binary64.zero false)
    else if 400 < e then none
    else if e + digits.length < -400 then some (Binary64.zero false)
    else if 0 ≤ e then Binary64.ofQuotient? (m * Nat.pow 10 e.toNat) 1
    else Binary64.ofQuotient? m (Nat.pow 10 (-e).toNat)
  magnitude?.map fun x => if l.negative then x.negate else x

/-- A significand below `2 ^ 64` and the power of ten that goes with it. -/
structure Scaled where
  significand : Nat
  exponent : Int

/-- Digits before the point: they enter the significand as long as it fits 64 bits, and from the
first one that does not on they only raise the exponent. -/
def Scaled.readWhole : List Char → Nat → Scaled
  | [], m => ⟨m, 0⟩
  | c :: rest, m =>
    let next := 10 * m + Text.digitValue c
    if next < UInt64.size then readWhole rest next else ⟨m, rest.length + 1⟩

/-- Digits after the point: they enter the significand as long as it fits 64 bits, and from the
first one that does not on they are dropped. -/
def Scaled.readFraction : List Char → Scaled → Scaled
  | [], s => s
  | c :: rest, s =>
    let next := 10 * s.significand + Text.digitValue c
    if next < UInt64.size then readFraction rest ⟨next, s.exponent - 1⟩ else s

/-- The greatest power of ten that is scaled by at once. -/
def maxStep : Nat := 308

def powerOfTen (e : Nat) : Binary64 :=
  (Binary64.ofQuotient? (Nat.pow 10 e) 1).getD (Binary64.zero false)

/-- A magnitude times `10 ^ e`, every step rounded. A power too small for one step is reached in
several; two of them bring every significand to zero, so `steps` need not be larger. -/
def scaleBy (steps : Nat) (x : Binary64) (e : Int) : Option Binary64 :=
  if 0 ≤ e then
    if e ≤ maxStep then x.mul? (powerOfTen e.toNat)
    else if x.isZero then some x else none
  else if -(maxStep : Int) ≤ e then x.div? (powerOfTen (-e).toNat)
  else if x.isZero then some x
  else
    match steps with
    | 0 => some (Binary64.zero false)
    | steps + 1 => (x.div? (powerOfTen maxStep)).bind fun y => scaleBy steps y (e + maxStep)

/-- The number that the significant digits give when they are rounded first and scaled afterwards;
nothing if that is too large. -/
def scaled? (l : Literal) : Option Binary64 :=
  let s := Scaled.readFraction (l.fraction.getD []) (Scaled.readWhole l.whole 0)
  let start := (Binary64.ofQuotient? s.significand 1).getD (Binary64.zero false)
  (scaleBy 4 start (s.exponent + l.exponentValue)).map fun x => if l.negative then x.negate else x

end Literal
end VolumeLifecycle.Decimal
