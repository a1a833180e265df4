import SimulationScript.Number.Binary64
import SimulationScript.Text.Numeral

/-! # Shortest decimal digits

The fewest decimal digits that still single out a finite 64-bit number: every number nearer to
another neighbour is told apart, and of several shortest candidates the nearest is taken. When two
are equally near, the rule for ties decides.
-/

namespace SimulationScript

/-- The decimal number `coefficient · 10 ^ exponent`. -/
structure Decimal where
  coefficient : Nat
  exponent : Int
  deriving DecidableEq, Repr

namespace Decimal

/-- The digits of the coefficient without trailing zeros. -/
def digits (d : Decimal) : List Char :=
  ((Text.numeral d.coefficient).reverse.dropWhile (· == '0')).reverse

/-- How many digits stand before the decimal point; zero or less when the number is below one. -/
def pointPosition (d : Decimal) : Int :=
  (Text.numeral d.coefficient).length + d.exponent

end Decimal

namespace Binary64

/-- Four times the magnitude of a number, and the lower and upper ends of the interval of reals
    that round to it, as numerators over one common denominator. -/
structure Neighbourhood where
  low : Nat
  value : Nat
  high : Nat
  denominator : Nat

/-- The interval of reals that round to the number. Below a power of two the next number is only
    half as far away. -/
def neighbourhood (x : Binary64) : Neighbourhood :=
  let below := if x.significand = 0x10000000000000 ∧ -1074 < x.exponent then 1 else 2
  let unit := if x.exponent < 0 then 1 else Nat.pow 2 x.exponent.natAbs
  { low := (4 * x.significand - below) * unit
    value := 4 * x.significand * unit
    high := (4 * x.significand + 2) * unit
    denominator := 4 * (if x.exponent < 0 then Nat.pow 2 x.exponent.natAbs else 1) }

/-- Whether `coefficient` units, a unit being `num / den`, round to the number. The ends of the
    interval belong to it when the significand is even. -/
def roundsTo (x : Binary64) (num den coefficient : Nat) : Bool :=
  let n := x.neighbourhood
  let candidate := coefficient * num * n.denominator
  let low := n.low * den
  let high := n.high * den
  if x.significand % 2 = 0 then decide (low ≤ candidate ∧ candidate ≤ high)
  else decide (low < candidate ∧ candidate < high)

/-- The nearest multiple of `10 ^ exponent` that rounds to the number, if one does. -/
def onGrid? (tie : Tie) (x : Binary64) (exponent : Int) : Option Decimal :=
  let n := x.neighbourhood
  let (num, den) :=
    if exponent < 0 then (1, Nat.pow 10 exponent.natAbs) else (Nat.pow 10 exponent.natAbs, 1)
  let floor := n.value * den / (n.denominator * num)
  let nearest := roundQuotient tie (n.value * den) (n.denominator * num)
  let other := if nearest = floor then floor + 1 else floor
  if x.roundsTo num den nearest then some ⟨nearest, exponent⟩
  else if x.roundsTo num den other then some ⟨other, exponent⟩
  else none

/-- The exponent of the leading decimal digit of a magnitude that is not zero. -/
def leadingExponent (x : Binary64) : Int :=
  let (num, den) := x.ratio
  if den ≤ num then (Text.numeral (num / den)).length - 1
  else
    let reciprocal := (den + num - 1) / num
    Int.negOfNat (Text.numeral (reciprocal - 1)).length

/-- The shortest decimal that rounds to the number. Seventeen digits always do. -/
def shortest (tie : Tie) (x : Binary64) : Decimal :=
  if x.isZero then ⟨0, 0⟩
  else
    let leading := x.leadingExponent
    let grids := (List.range 17).map fun (extra : Nat) => leading - extra
    (grids.findSome? (x.onGrid? tie)).getD ⟨0, 0⟩

end Binary64

end SimulationScript
