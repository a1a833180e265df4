import SimulationScript.Text.Invisible

/-! # Text shown in messages

How a message shows a piece of text it found: in double quotes, with escapes for quotes,
backslashes, and characters that would not be seen.
-/

namespace SimulationScript.Text

/-- One character as it is shown in a message. -/
def shownChar (c : Char) : List Char :=
  if c = '\x00' then ['\\', '0']
  else if c = '\t' then ['\\', 't']
  else if c = '\n' then ['\\', 'n']
  else if c = '\r' then ['\\', 'r']
  else if c = '"' then ['\\', '"']
  else if c = '\\' then ['\\', '\\']
  else if isInvisible c then '\\' :: 'u' :: '{' :: Nat.toDigits 16 c.toNat ++ ['}']
  else [c]

/-- A piece of text in double quotes as it is shown in a message. -/
def shown (cs : List Char) : List Char :=
  '"' :: cs.flatMap shownChar ++ ['"']

end SimulationScript.Text
