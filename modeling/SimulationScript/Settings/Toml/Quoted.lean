import SimulationScript.Json.Quoted
import SimulationScript.Settings.Toml.Reader

/-! # TOML strings

Strings between double quotes, in which backslashes escape, and between single quotes, in which
nothing does. Three quotes on either side enclose a string of several lines.
-/

namespace SimulationScript.Toml

/-- The number written in a run of hexadecimal digits. -/
def hexNumber? (digits : List Char) : Option Nat :=
  digits.foldlM (fun n c => (Json.hexValue? c).map (16 * n + ·)) 0

/-- The character with a code point written in exactly `width` hexadecimal digits. -/
def codePoint? (width : Nat) (cs : List Char) : Option (Char × List Char) := do
  let digits := cs.take width
  guard (digits.length = width)
  let n ← hexNumber? digits
  guard n.isValidChar
  return (Char.ofNat n, cs.drop width)

/-- The character that an escape stands for, from the letter after the backslash. -/
def escape? : Reader Char
  | [] => none
  | c :: rest =>
    if c = 'u' then codePoint? 4 rest
    else if c = 'U' then codePoint? 8 rest
    else if c = '/' then none
    else (Json.letterEscape? c).map (·, rest)

/-- The rest of a string between double quotes on one line. -/
def basicString : Nat → Reader (List Char)
  | 0, _ => none
  | _, [] => none
  | limit + 1, c :: rest =>
    if c = '"' then some ([], rest)
    else if c = '\\' then do
      let (value, rest) ← escape? rest
      let (more, rest) ← basicString limit rest
      return (value :: more, rest)
    else if isPlain c then (basicString limit rest).map fun (more, rest) => (c :: more, rest)
    else none

/-- The rest of a string between single quotes on one line. -/
def literalString (cs : List Char) : Option (List Char × List Char) :=
  let value := cs.takeWhile (· != '\'')
  match cs.drop value.length with
  | _ :: rest => if value.all isPlain then some (value, rest) else none
  | [] => none

/-- The rest of a string between three quotes each. Up to two quotes may stand before the closing
    three; between double quotes a backslash at the end of a line joins the lines. -/
def longString (quote : Char) : Nat → Reader (List Char)
  | 0, _ => none
  | limit + 1, cs =>
    let quotes := cs.takeWhile (· == quote)
    if 3 ≤ quotes.length then
      if quotes.length ≤ 5 then
        some (List.replicate (quotes.length - 3) quote, cs.drop quotes.length)
      else none
    else match skipNewline? cs with
      | some rest => (longString quote limit rest).map fun (more, rest) => ('\n' :: more, rest)
      | none =>
        match cs with
        | [] => none
        | c :: rest =>
          if c = '\\' ∧ quote = '"' then
            match skipNewline? (skipSpace rest) with
            | some rest => longString quote limit (skipGap rest)
            | none => do
              let (value, rest) ← escape? rest
              let (more, rest) ← longString quote limit rest
              return (value :: more, rest)
          else if isPlain c then
            (longString quote limit rest).map fun (more, rest) => (c :: more, rest)
          else none

/-- The text after a line break that directly follows the opening quotes. -/
def skipFirstNewline (cs : List Char) : List Char :=
  (skipNewline? cs).getD cs

def string? (limit : Nat) : Reader (List Char)
  | '"' :: '"' :: '"' :: rest => longString '"' limit (skipFirstNewline rest)
  | '\'' :: '\'' :: '\'' :: rest => longString '\'' limit (skipFirstNewline rest)
  | '"' :: rest => basicString limit rest
  | '\'' :: rest => literalString rest
  | _ => none

end SimulationScript.Toml
