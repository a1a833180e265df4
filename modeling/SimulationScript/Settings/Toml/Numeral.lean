import SimulationScript.Json.Quoted
import SimulationScript.Settings.Basic

/-! # TOML numbers

Integers in one of four bases and decimals. Single underscores may separate their digits.
-/

namespace SimulationScript.Toml

/-- Digits of one base with single underscores between them, which are dropped. -/
def digits? (isDigit : Char → Bool) (cs : List Char) : Option (List Char) :=
  let groups := cs.splitOn '_'
  if groups.all fun group => !group.isEmpty && group.all isDigit then some groups.flatten
  else none

/-- A number in a base that a prefix names. -/
def basedInteger? (base : Nat) (cs : List Char) : Option Int := do
  let isDigit (c : Char) := (Json.hexValue? c).any (· < base)
  let digits ← digits? isDigit cs
  return digits.foldl (fun n c => base * n + (Json.hexValue? c).getD 0) 0

/-- A decimal number without leading zeros. -/
def decimalDigits? (cs : List Char) : Option (List Char) := do
  let digits ← digits? Char.isDigit cs
  match digits with
  | '0' :: _ :: _ => none
  | _ => some digits

def integer? (cs : List Char) : Option Setting := do
  let n : Int ← match cs with
    | '0' :: 'x' :: rest => basedInteger? 16 rest
    | '0' :: 'o' :: rest => basedInteger? 8 rest
    | '0' :: 'b' :: rest => basedInteger? 2 rest
    | _ =>
      let (negative, rest) := Text.sign cs
      (decimalDigits? rest).map fun digits =>
        if negative then -(Text.numeralValue digits : Int) else Text.numeralValue digits
  guard (IsSignedWord n)
  return .integer n

/-- A run of digits with an optional sign, as the exponent of a decimal is written. -/
def exponent? (cs : List Char) : Option Int := do
  let (negative, rest) := Text.sign cs
  let digits ← digits? Char.isDigit rest
  return if negative then -(Text.numeralValue digits : Int) else Text.numeralValue digits

/-- A decimal with a fraction, an exponent or both, or one of the words for numbers out of range. A
    decimal may be too large below zero, where it counts as minus infinity, but not above. -/
def decimal? (cs : List Char) : Option Setting := do
  let (negative, rest) := Text.sign cs
  if rest = "inf".toList then return .infinite negative
  if rest = "nan".toList then return .undefined
  let isMark (c : Char) := c == 'e' || c == 'E'
  let mantissa := rest.takeWhile (!isMark ·)
  let afterMantissa := rest.dropWhile (!isMark ·)
  let whole ← decimalDigits? (mantissa.takeWhile (· != '.'))
  let afterWhole := mantissa.dropWhile (· != '.')
  guard !(afterWhole ++ afterMantissa).isEmpty
  let fraction ← match afterWhole with
    | [] => some []
    | _ :: digits => digits? Char.isDigit digits
  let exponent ← match afterMantissa with
    | [] => some 0
    | _ :: power => exponent? power
  match Setting.ofDecimal negative (Text.numeralValue (whole ++ fraction))
      (exponent - fraction.length) with
  | .infinite false => none
  | number => some number

end SimulationScript.Toml
