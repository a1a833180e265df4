import SimulationScript.Number.Shortest

/-! # Decimal layouts

How the shortest digits of a floating-point number are set out as text: positionally or with an
exponent, and with or without a fraction after a whole number.
-/

namespace SimulationScript

/-- The choices that fix the text of a floating-point number. The bounds are on the exponent of
    the leading digit; outside them the number is written with an exponent. -/
structure Layout where
  /-- The least exponent written positionally, if there is one. -/
  lowest : Option Int
  /-- The greatest exponent written positionally, if there is one. -/
  highest : Option Int
  /-- Whether a whole number written positionally ends in `.0`. -/
  wholeFraction : Bool
  /-- Which of two equally near shortest numbers is written. -/
  tie : Tie
  deriving Repr

namespace Layout

/-- Whether a number whose leading digit has this exponent is written positionally. -/
def isPositional (layout : Layout) (exponent : Int) : Bool :=
  layout.lowest.all (· ≤ exponent) && layout.highest.all (exponent ≤ ·)

/-- Digits around a decimal point that stands after the first `point` of them. -/
def positional (layout : Layout) (digits : List Char) (point : Int) : List Char :=
  if point ≤ 0 then '0' :: '.' :: List.replicate point.natAbs '0' ++ digits
  else
    let whole := digits.take point.toNat
    let filled := whole ++ List.replicate (point.toNat - digits.length) '0'
    let fraction := digits.drop point.toNat
    if fraction.isEmpty then filled ++ (if layout.wholeFraction then ['.', '0'] else [])
    else filled ++ '.' :: fraction

/-- One digit, a fraction if there are more digits, and a signed exponent. -/
def scientific (digits : List Char) (exponent : Int) : List Char :=
  let mantissa := match digits with
    | [] => []
    | [d] => [d]
    | d :: more => d :: '.' :: more
  let sign := if exponent < 0 then '-' else '+'
  mantissa ++ 'e' :: sign :: Text.numeral exponent.natAbs

def text (layout : Layout) (x : Binary64) : List Char :=
  let sign := if x.negative then ['-'] else []
  if x.isZero then sign ++ (if layout.wholeFraction then ['0', '.', '0'] else ['0'])
  else
    let decimal := x.shortest layout.tie
    let point := decimal.pointPosition
    sign ++
      if layout.isPositional (point - 1) then layout.positional decimal.digits point
      else scientific decimal.digits (point - 1)

end Layout

end SimulationScript
