/-! # Decimal numerals

Numbers as ASCII decimal digits: writing a natural number or an integer, splitting a sign or the
digits off a text, and the value of a run of digits.
-/

namespace SimulationScript.Text

/-- The decimal digits of a natural number, without leading zeros. -/
def numeral (n : Nat) : List Char :=
  Nat.toDigits 10 n

/-- The decimal text of an integer, with a sign only when it is negative. -/
def integer (n : Int) : List Char :=
  if n < 0 then '-' :: numeral n.natAbs else numeral n.natAbs

/-- The number that a run of decimal digits spells. Leading zeros do not matter. -/
def numeralValue (digits : List Char) : Nat :=
  Nat.ofDigitChars 10 digits 0

/-- The digits at the front of a text, and what follows them. -/
def spanDigits (cs : List Char) : List Char × List Char :=
  (cs.takeWhile Char.isDigit, cs.dropWhile Char.isDigit)

/-- A numeral widened with zeros on the left to at least `width` digits. -/
def padded (width n : Nat) : List Char :=
  List.replicate (width - (numeral n).length) '0' ++ numeral n

/-- The sign at the front of a text, true for minus, and what follows it. -/
def sign (cs : List Char) : Bool × List Char :=
  match cs with
  | '-' :: rest => (true, rest)
  | '+' :: rest => (false, rest)
  | _ => (false, cs)

/-- Reads a whole text as a natural number: one optional plus sign, then digits only. -/
def natural? (cs : List Char) : Option Nat :=
  let digits := match cs with
    | '+' :: rest => rest
    | _ => cs
  if digits.isEmpty || !digits.all Char.isDigit then none else some (numeralValue digits)

/-- Reads a whole text as an integer: one optional sign, then digits only. -/
def integer? (cs : List Char) : Option Int :=
  match cs with
  | '-' :: rest =>
    if rest.isEmpty || !rest.all Char.isDigit then none else some (-(numeralValue rest : Int))
  | _ => (natural? cs).map Int.ofNat

end SimulationScript.Text
