import SimulationScript.Json.Basic

/-! # Scripts

A script is a list of entries in order. An entry is one line of source, except that a literal may
span several.
-/

namespace SimulationScript

structure Script where
  lines : List String
  deriving DecidableEq, Repr

namespace Script

/-- The script as a text without a final line break. -/
def text (script : Script) : String :=
  "\n".intercalate script.lines

/-- The script as a source file, which ends in a line break. -/
def source (script : Script) : String :=
  script.text ++ "\n"

def toJson (script : Script) : Json :=
  .obj [("lines", .arr (script.lines.map .str))]

end Script

end SimulationScript
