import SimulationScript.Json.Quoted
import SimulationScript.Json.Basic

/-! # JSON tokens

The parts that readers of JSON text share: white space, words, numbers, and the marks that lead
from one item or member to the next.
-/

namespace SimulationScript.Json

/-- The white space of the grammar: space, tab, line feed and carriage return. -/
def isSpace (c : Char) : Bool :=
  c == ' ' || c == '\t' || c == '\n' || c == '\r'

/-- The text from its first character that is no white space. -/
def skipSpace (cs : List Char) : List Char :=
  cs.dropWhile isSpace

def expectWord : List Char → List Char → Except TextFault (List Char)
  | [], cs => .ok cs
  | _ :: _, [] => .error .truncated
  | w :: word, c :: cs => if c = w then expectWord word cs else .error .malformed

/-- The digits at the front of a text, of which there must be one. -/
def scanDigits (cs : List Char) : Except TextFault (List Char × List Char) :=
  match Text.spanDigits cs with
  | ([], []) => .error .truncated
  | ([], _ :: _) => .error .malformed
  | (digits, rest) => .ok (digits, rest)

/-- The digits of a whole number. A zero stands alone. -/
def scanWhole (cs : List Char) : Except TextFault (List Char × List Char) :=
  match scanDigits cs with
  | .ok ('0' :: _ :: _, _) => .error .malformed
  | result => result

/-- The digits after a decimal point, or none when there is no point. -/
def scanFraction (cs : List Char) : Except TextFault (List Char × List Char) :=
  match cs with
  | '.' :: rest => scanDigits rest
  | _ => .ok ([], cs)

/-- The sign and the digits of an exponent, if there is one. -/
def scanExponent (cs : List Char) : Except TextFault (Option (Bool × List Char) × List Char) :=
  match cs with
  | c :: rest =>
    if c = 'e' ∨ c = 'E' then
      let (minus, digits) := match rest with
        | '+' :: after => (false, after)
        | '-' :: after => (true, after)
        | _ => (false, rest)
      (scanDigits digits).map fun (digits, rest) => (some (minus, digits), rest)
    else .ok (none, cs)
  | [] => .ok (none, cs)

/-- The longest number token at the front of a text. -/
def scanNumber (cs : List Char) : Except TextFault (NumberToken × List Char) := do
  let (negative, cs) := match cs with
    | '-' :: rest => (true, rest)
    | _ => (false, cs)
  let (whole, cs) ← scanWhole cs
  let (fraction, cs) ← scanFraction cs
  let (exponent, cs) ← scanExponent cs
  return ({ negative, whole, fraction, exponent }, cs)

/-- A number. One that is out of range is a fault of the text. -/
def readNumber : TextReader Number := fun cs => do
  let (token, rest) ← scanNumber cs
  match token.value? with
  | some n => return (n, rest)
  | none => throw .malformed

/-- A value that is neither an array nor an object, at the front of a text without leading
    space. -/
def readScalar : TextReader Json
  | [] => .error .truncated
  | c :: rest =>
    if c = 'n' then (expectWord ['u', 'l', 'l'] rest).map (.null, ·)
    else if c = 't' then (expectWord ['r', 'u', 'e'] rest).map (.bool true, ·)
    else if c = 'f' then (expectWord ['a', 'l', 's', 'e'] rest).map (.bool false, ·)
    else if c = '"' then (readString rest).map fun (s, rest) => (.str (String.ofList s), rest)
    else if c = '-' ∨ c.isDigit then (readNumber (c :: rest)).map fun (n, rest) => (.num n, rest)
    else .error .malformed

/-- Where a reader stands inside an array or an object. -/
inductive Place where
  /-- Past the closing bracket. -/
  | closed (rest : List Char)
  /-- At the next item, or inside the quotes of the next name. -/
  | next (rest : List Char)
  deriving DecidableEq, Repr

/-- Goes to the next item of an array or past its end. Items after the first follow a comma, and
    no comma stands before the closing bracket. -/
def nextItem (first : Bool) (cs : List Char) : Except TextFault Place :=
  match skipSpace cs with
  | [] => .error .truncated
  | c :: rest =>
    if c = ']' then .ok (.closed rest)
    else if first then .ok (.next (c :: rest))
    else if c = ',' then
      match skipSpace rest with
      | [] => .error .truncated
      | d :: after => if d = ']' then .error .malformed else .ok (.next (d :: after))
    else .error .malformed

/-- Goes to the next name of an object or past its end. -/
def nextName (first : Bool) (cs : List Char) : Except TextFault Place :=
  match skipSpace cs with
  | [] => .error .truncated
  | c :: rest =>
    if c = '}' then .ok (.closed rest)
    else if first then if c = '"' then .ok (.next rest) else .error .malformed
    else if c = ',' then
      match skipSpace rest with
      | [] => .error .truncated
      | d :: after => if d = '"' then .ok (.next after) else .error .malformed
    else .error .malformed

/-- What follows a mark that has to come next: a colon after a name, a closing bracket after the
    last wanted item, or the quote that opens a name. -/
def skipMark (mark : Char) (cs : List Char) : Except TextFault (List Char) :=
  match skipSpace cs with
  | [] => .error .truncated
  | c :: rest => if c = mark then .ok rest else .error .malformed

/-- The items of an array up to its closing bracket. Every item takes up text, so the last test
    never fails. -/
def readItems {α : Type} (item : TextReader α) (first : Bool) (cs : List Char) :
    Except TextFault (List α × List Char) :=
  match nextItem first cs with
  | .error fault => .error fault
  | .ok (.closed rest) => .ok ([], rest)
  | .ok (.next here) =>
    match item here with
    | .error fault => .error fault
    | .ok (value, rest) =>
      if rest.length < cs.length then
        (readItems item false rest).map fun (values, last) => (value :: values, last)
      else .error .malformed
termination_by cs.length

/-- Goes through the members of an object up to its closing bracket. `member` gets the name, the
    state so far and the text after the name. Every member takes up text, so the last test never
    fails. -/
def readMembers {σ : Type} (member : String → σ → TextReader σ) (state : σ) (first : Bool)
    (cs : List Char) : Except TextFault (σ × List Char) :=
  match nextName first cs with
  | .error fault => .error fault
  | .ok (.closed rest) => .ok (state, rest)
  | .ok (.next here) =>
    match readString here with
    | .error fault => .error fault
    | .ok (name, after) =>
      match member (String.ofList name) state after with
      | .error fault => .error fault
      | .ok (state, rest) =>
        if rest.length < cs.length then readMembers member state false rest
        else .error .malformed
termination_by cs.length

end SimulationScript.Json
