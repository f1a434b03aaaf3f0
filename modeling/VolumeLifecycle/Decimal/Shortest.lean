import VolumeLifecycle.Decimal.Binary64

namespace VolumeLifecycle.Decimal

structure Digits where
  digits : Nat
  exponent : Int
  deriving DecidableEq, Repr, Inhabited

namespace Digits

/-- The same decimal without zeros at its end; `fuel` bounds how many are removed. -/
def strip : Nat → Digits → Digits
  | 0, d => d
  | fuel + 1, d =>
    if d.digits ≠ 0 ∧ d.digits % 10 = 0 then strip fuel ⟨d.digits / 10, d.exponent + 1⟩ else d

end Digits

namespace Binary64

/-- The interval of reals that round to a positive number, and the number itself, over one
denominator. Both ends belong to it iff `closed`. -/
structure Neighbourhood where
  low : Nat
  value : Nat
  high : Nat
  den : Nat
  closed : Bool

/-- The neighbourhood of a positive finite number. Below a power of two the next number is half as
far away as above it. -/
def neighbourhood (x : Binary64) : Neighbourhood :=
  let m := x.significand
  let q := x.exponent
  let gapBelow := if m = Nat.pow 2 52 ∧ minExponent < q then 1 else 2
  let unit := if 0 ≤ q then Nat.pow 2 q.toNat else 1
  let den := if 0 ≤ q then 4 else 4 * Nat.pow 2 (-q).toNat
  { low := (4 * m - gapBelow) * unit
    value := 4 * m * unit
    high := (4 * m + 2) * unit
    den := den
    closed := m % 2 = 0 }

/-- Whether the decimal grid point `k · 10 ^ e` lies in the interval. -/
def Neighbourhood.contains (n : Neighbourhood) (k : Nat) (e : Int) : Bool :=
  let num := if 0 ≤ e then k * Nat.pow 10 e.toNat * n.den else k * n.den
  let scale := if 0 ≤ e then 1 else Nat.pow 10 (-e).toNat
  if n.closed then n.low * scale ≤ num && num ≤ n.high * scale
  else n.low * scale < num && num < n.high * scale

/-- The grid point at or below the value, with the remainder and the divisor that tell how far it
is away. -/
def Neighbourhood.below (n : Neighbourhood) (e : Int) : Nat × Nat × Nat :=
  let num := if 0 ≤ e then n.value else n.value * Nat.pow 10 (-e).toNat
  let den := if 0 ≤ e then n.den * Nat.pow 10 e.toNat else n.den
  (num / den, num % den, den)

/-- A point of the grid with step `10 ^ e` that lies in the interval, the nearer one if both
neighbours of the value do; an exact tie goes to the even point. -/
def Neighbourhood.onGrid? (n : Neighbourhood) (e : Int) : Option Digits :=
  let (k, rest, den) := n.below e
  let upperFirst := den < 2 * rest || (den = 2 * rest && k % 2 = 1)
  let first := if upperFirst then k + 1 else k
  let second := if upperFirst then k else k + 1
  if n.contains first e then some ⟨first, e⟩
  else if n.contains second e then some ⟨second, e⟩
  else none

/-- The greatest `e` with `10 ^ e` at most the value, searched from an estimate that is at most
two too large. -/
def Neighbourhood.decimalExponent (n : Neighbourhood) : Int :=
  let estimate : Int := ((n.value.log2 : Int) - n.den.log2) * 30103 / 100000 + 1
  let reaches (e : Int) : Bool :=
    if 0 ≤ e then Nat.pow 10 e.toNat * n.den ≤ n.value else n.den ≤ n.value * Nat.pow 10 (-e).toNat
  if reaches estimate then estimate
  else if reaches (estimate - 1) then estimate - 1
  else estimate - 2

/-- The first grid with a point in the interval, of those with `count` digits, then one more, and
so on; `fuel` bounds how many are tried. -/
def Neighbourhood.search (n : Neighbourhood) (top : Int) : Nat → Nat → Option Digits
  | 0, _ => none
  | fuel + 1, count =>
    match n.onGrid? (top - count + 1) with
    | some d => if d.digits = 0 then n.search top fuel (count + 1) else some d
    | none => n.search top fuel (count + 1)

/-- The shortest decimal that reads back as a positive finite number, and among the shortest ones
the nearest. For each count of digits the two neighbours of the number on the decimal grid are
tested against the interval that rounds to it. Seventeen digits always do. -/
def shortest (x : Binary64) : Digits :=
  let n := x.neighbourhood
  let top := n.decimalExponent
  Digits.strip 17 ((n.search top 17 1).getD ⟨0, 0⟩)

end Binary64
end VolumeLifecycle.Decimal
