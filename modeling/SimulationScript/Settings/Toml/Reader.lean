import SimulationScript.Settings.Basic

/-! # Reading TOML text

Readers of TOML text, and what stands between its parts: white space, comments and line breaks.
Readers that repeat a step take a limit on the number of steps, for which one more than the length
of the document is enough.
-/

namespace SimulationScript.Toml

/-- A reader takes a value off the front of a text and returns the rest. -/
abbrev Reader (α : Type) := List Char → Option (α × List Char)

def skipSpace (cs : List Char) : List Char :=
  cs.dropWhile fun c => c == ' ' || c == '\t'

/-- Whether a character may stand in a comment or a string on one line. -/
def isPlain (c : Char) : Bool :=
  c == '\t' || (0x20 ≤ c.toNat && c.toNat != 0x7f)

def skipNewline? : List Char → Option (List Char)
  | '\n' :: rest => some rest
  | '\r' :: '\n' :: rest => some rest
  | _ => none

/-- The text after an optional comment, up to the end of the line. -/
def skipComment (cs : List Char) : List Char :=
  match cs with
  | '#' :: rest => rest.dropWhile isPlain
  | _ => cs

/-- What follows the rest of a line that holds nothing more. -/
def endLine? (cs : List Char) : Option (List Char) :=
  match skipComment (skipSpace cs) with
  | [] => some []
  | rest => skipNewline? rest

/-- The text after white space, comments and line breaks. -/
def skipBlank : List Char → List Char
  | ' ' :: rest => skipBlank rest
  | '\t' :: rest => skipBlank rest
  | '\n' :: rest => skipBlank rest
  | '\r' :: '\n' :: rest => skipBlank rest
  | '#' :: rest => skipBlank (rest.dropWhile isPlain)
  | cs => cs
  termination_by cs => cs.length
  decreasing_by
    all_goals simp_wf
    all_goals have := (List.dropWhile_sublist isPlain (l := rest)).length_le; omega

def skipGap : List Char → List Char
  | ' ' :: rest => skipGap rest
  | '\t' :: rest => skipGap rest
  | '\n' :: rest => skipGap rest
  | '\r' :: '\n' :: rest => skipGap rest
  | cs => cs

end SimulationScript.Toml
