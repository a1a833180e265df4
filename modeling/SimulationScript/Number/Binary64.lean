import SimulationScript.Text.Numeral

/-! # Finite binary floating-point numbers

A 64-bit floating-point number is kept as its sign, significand and exponent, in the one canonical
form of its value, so equality is equality of numbers except that the two zeros stay apart.
Products, quotients and powers of ten are rounded once, to the nearest number and on a tie to the
even significand.
-/

namespace SimulationScript

/-- The significands and exponents of finite 64-bit numbers: 53 bits, the top one set unless the
    exponent is the least. -/
def IsCanonical (significand : Nat) (exponent : Int) : Prop :=
  significand < 0x20000000000000 ∧ -1074 ≤ exponent ∧ exponent ≤ 971 ∧
    (0x10000000000000 ≤ significand ∨ exponent = -1074)

instance (significand : Nat) (exponent : Int) : Decidable (IsCanonical significand exponent) :=
  inferInstanceAs (Decidable (_ ∧ _ ∧ _ ∧ _))

/-- Where a number goes that is halfway between two candidates. -/
inductive Tie where
  | toEven
  | awayFromZero
  deriving DecidableEq, Repr

/-- The finite number `± significand · 2 ^ exponent`. -/
structure Binary64 where
  negative : Bool
  significand : Nat
  exponent : Int
  canonical : IsCanonical significand exponent
  deriving DecidableEq, Repr

namespace Binary64

def zero (negative : Bool) : Binary64 :=
  ⟨negative, 0, -1074, by decide⟩

/-- The number with these parts, when they are in canonical form. -/
def ofParts? (negative : Bool) (significand : Nat) (exponent : Int) : Option Binary64 :=
  if h : IsCanonical significand exponent then some ⟨negative, significand, exponent, h⟩ else none

def withSign (negative : Bool) (x : Binary64) : Binary64 :=
  { x with negative }

/-- Whether the number is one of the two zeros. -/
def isZero (x : Binary64) : Bool :=
  x.significand == 0

/-- The quotient rounded to the nearest natural number. -/
def roundQuotient (tie : Tie) (num den : Nat) : Nat :=
  let quotient := num / den
  let twice := 2 * (num % den)
  if twice < den then quotient
  else if den < twice then quotient + 1
  else match tie with
  | .toEven => quotient + quotient % 2
  | .awayFromZero => quotient + 1

/-- The ratio divided by `2 ^ exponent`, again as a ratio. -/
def descale (num den : Nat) (exponent : Int) : Nat × Nat :=
  if exponent < 0 then (num * Nat.pow 2 exponent.natAbs, den)
  else (num, den * Nat.pow 2 exponent.natAbs)

/-- The non-negative number nearest to `num / den`, or `none` when that is too large. -/
def ofRatio? (num den : Nat) : Option Binary64 :=
  if num = 0 then some (zero false)
  else
    let guess : Int := (Nat.log2 num : Int) - Nat.log2 den - 52
    let (a, b) := descale num den guess
    let fitted := if a < 0x10000000000000 * b then guess - 1 else guess
    let exponent := max fitted (-1074)
    let (a, b) := descale num den exponent
    let significand := roundQuotient .toEven a b
    if significand = 0x20000000000000 then ofParts? false 0x10000000000000 (exponent + 1)
    else ofParts? false significand exponent

/-- The magnitude of a number as a ratio of natural numbers. -/
def ratio (x : Binary64) : Nat × Nat :=
  if x.exponent < 0 then (x.significand, Nat.pow 2 x.exponent.natAbs)
  else (x.significand * Nat.pow 2 x.exponent.natAbs, 1)

/-- The product of the magnitudes, rounded, or `none` when it is too large. -/
def mul? (x y : Binary64) : Option Binary64 :=
  ofRatio? (x.ratio.1 * y.ratio.1) (x.ratio.2 * y.ratio.2)

/-- The quotient of the magnitudes, rounded, or `none` when it is too large. -/
def div? (x y : Binary64) : Option Binary64 :=
  ofRatio? (x.ratio.1 * y.ratio.2) (x.ratio.2 * y.ratio.1)

/-- The number nearest to a power of ten. -/
def powerOfTen? (n : Nat) : Option Binary64 :=
  ofRatio? (Nat.pow 10 n) 1

/-- Divides by `10 ^ 308` the given number of times, rounding each time; zero stays zero. -/
def shrink? : Nat → Binary64 → Option Binary64
  | 0, x => some x
  | steps + 1, x =>
    if x.isZero then some x
    else ((powerOfTen? 308).bind x.div?).bind (shrink? steps)

/-- Multiplies by a power of ten, with one rounding for the power and one for the result. An
    exponent below -308 is taken off in steps of 308, each with roundings of its own. -/
def scaleByTen? (x : Binary64) (exponent : Int) : Option Binary64 :=
  if 308 < exponent then if x.isZero then some x else none
  else if 0 ≤ exponent then (powerOfTen? exponent.toNat).bind x.mul?
  else
    let steps := (exponent.natAbs - 1) / 308
    (shrink? steps x).bind fun small =>
      if small.isZero then some small
      else (powerOfTen? (exponent.natAbs - 308 * steps)).bind small.div?

/-- The number read from a significand and a decimal exponent: the significand is rounded first
    and then scaled, so the result may differ from the nearest number in its last bit. -/
def ofDecimal? (negative : Bool) (significand : Nat) (exponent : Int) : Option Binary64 :=
  ((ofRatio? significand 1).bind (scaleByTen? · exponent)).map (withSign negative)

/-- The number nearest to `significand · 10 ^ exponent`, or `none` when that is too large. The
    digits of the significand and the exponent decide together whether the decimal is far out of
    range, so that no power of ten is larger than the numbers in range need. -/
def nearestDecimal? (negative : Bool) (significand : Nat) (exponent : Int) : Option Binary64 :=
  let size : Int := (Text.numeral significand).length + exponent
  let nearest :=
    if significand = 0 ∨ size < -400 then some (zero false)
    else if 400 < size then none
    else if exponent < 0 then ofRatio? significand (Nat.pow 10 exponent.natAbs)
    else ofRatio? (significand * Nat.pow 10 exponent.natAbs) 1
  nearest.map (withSign negative)

/-- The number rounded to an integer, a half away from zero. -/
def roundAway (x : Binary64) : Int :=
  let (num, den) := x.ratio
  let magnitude := roundQuotient .awayFromZero num den
  if x.negative then -(magnitude : Int) else magnitude

end Binary64

end SimulationScript
