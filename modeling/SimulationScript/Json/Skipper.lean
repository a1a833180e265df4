import SimulationScript.Json.Token

/-! # Skipping JSON values

Values that nobody asked for are passed over. Their grammar is checked, but numbers may be out of
range, surrogates may be alone, and nesting is not limited.
-/

namespace SimulationScript.Json

inductive Bracket where
  | array
  | object
  deriving DecidableEq, Repr

/-- What follows a number of any size. A number that breaks off at the end of the text is
    malformed here. -/
def skipNumber (cs : List Char) : Except TextFault (List Char) :=
  match scanNumber cs with
  | .ok (_, rest) => .ok rest
  | .error _ => .error .malformed

/-- What follows a scalar or an opening bracket, and which bracket it was. -/
def skipOpening (cs : List Char) : Except TextFault (Option Bracket × List Char) :=
  match skipSpace cs with
  | [] => .error .truncated
  | c :: rest =>
    if c = '[' then .ok (some .array, rest)
    else if c = '{' then .ok (some .object, rest)
    else
      (if c = 'n' then expectWord ['u', 'l', 'l'] rest
        else if c = 't' then expectWord ['r', 'u', 'e'] rest
        else if c = 'f' then expectWord ['a', 'l', 's', 'e'] rest
        else if c = '"' then skipString rest
        else if c = '-' ∨ c.isDigit then skipNumber (c :: rest)
        else .error .malformed).map (none, ·)

/-- Goes to the value of the next item or member, or past the closing bracket. -/
def skipToValue (bracket : Bracket) (first : Bool) (cs : List Char) : Except TextFault Place :=
  match bracket with
  | .array => nextItem first cs
  | .object =>
    match nextName first cs with
    | .ok (.next rest) => do
      let rest ← skipString rest
      let rest ← skipMark ':' rest
      return .next rest
    | place => place

/-- What follows the closing bracket of the outermost of several open brackets, innermost first.
    Every step takes up text, so the tests of length never fail. -/
def skipBrackets (openBrackets : List Bracket) (first : Bool) (cs : List Char) :
    Except TextFault (List Char) :=
  match openBrackets with
  | [] => .ok cs
  | innermost :: outer =>
    match skipToValue innermost first cs with
    | .error fault => .error fault
    | .ok (.closed rest) =>
      if rest.length < cs.length then skipBrackets outer false rest else .error .malformed
    | .ok (.next here) =>
      match skipOpening here with
      | .error fault => .error fault
      | .ok (opened, rest) =>
        if rest.length < cs.length then
          match opened with
          | some bracket => skipBrackets (bracket :: innermost :: outer) true rest
          | none => skipBrackets (innermost :: outer) false rest
        else .error .malformed
termination_by cs.length

def skipValue (cs : List Char) : Except TextFault (List Char) :=
  match skipOpening cs with
  | .error fault => .error fault
  | .ok (some bracket, rest) => skipBrackets [bracket] true rest
  | .ok (none, rest) => .ok rest

end SimulationScript.Json
