import SimulationScript.Json.Token

/-! # Reading JSON

A strict reader of JSON text. A member whose name has come before replaces the earlier value in
its place. Nesting is limited; the bracket that goes too deep is a fault.
-/

namespace SimulationScript.Json

/-- A member added to those read so far. -/
def readMember (value : TextReader Json) (name : String) (members : List (String × Json)) :
    TextReader (List (String × Json)) := fun cs => do
  let cs ← skipMark ':' cs
  let (member, rest) ← value cs
  return (Entries.set name member members, rest)

/-- A value, given the reader of the values nested in it, if any may be. -/
def readWith (nested : Option (TextReader Json)) : TextReader Json := fun cs =>
  match skipSpace cs with
  | [] => .error .truncated
  | c :: rest =>
    if c = '[' then
      match nested with
      | none => .error .malformed
      | some value => (readItems value true rest).map fun (items, rest) => (.arr items, rest)
    else if c = '{' then
      match nested with
      | none => .error .malformed
      | some value =>
        (readMembers (readMember value) [] true rest).map fun (members, rest) =>
          (.obj members, rest)
    else readScalar (c :: rest)

/-- A value with at most `depth` brackets open at a time. -/
def read : Nat → TextReader Json
  | 0 => readWith none
  | depth + 1 => readWith (some (read depth))

/-- How many brackets may be open at a time. -/
def maxDepth : Nat := 127

/-- Reads a whole text with a reader that stops where its value ends. -/
def readWhole {α : Type} (reader : TextReader α) (cs : List Char) : Except TextFault α := do
  let (value, rest) ← reader cs
  if (skipSpace rest).isEmpty then return value else throw .malformed

def parse (text : String) : Except TextFault Json :=
  readWhole (read maxDepth) text.toList

end SimulationScript.Json
