import SimulationScript.Json.Printer
import SimulationScript.Text.Replace

/-! # Literals in scripts

A JSON value in a script is its indented text with the three JSON words respelled. The respelling
works on the whole text, so it reaches into names and strings as well.
-/

namespace SimulationScript.Literal

/-- The JSON words and their spellings in a script, in the order in which they are replaced. -/
def spellings : List (List Char × List Char) :=
  [("true".toList, "True".toList), ("false".toList, "False".toList),
    ("null".toList, "None".toList)]

/-- Replaces the words throughout a text, one word after the other. -/
def respell (cs : List Char) : List Char :=
  spellings.foldl (fun cs spelling => Text.replaceAll spelling.1 spelling.2 cs) cs

/-- The literal of a JSON value. -/
def ofJson (value : Json) : String :=
  String.ofList (respell (value.pretty 0))

end SimulationScript.Literal
