/-! # Replacing a word throughout a text

Occurrences are taken from left to right and do not overlap; text put in is not searched again.
-/

namespace SimulationScript.Text

/-- Writes `replacement` for every occurrence of `word`. An empty word occurs nowhere. -/
def replaceAll (word replacement : List Char) : List Char → List Char
  | [] => []
  | c :: rest =>
    if word ≠ [] ∧ word.isPrefixOf (c :: rest) then
      replacement ++ replaceAll word replacement (rest.drop (word.length - 1))
    else c :: replaceAll word replacement rest
termination_by cs => cs.length
decreasing_by all_goals grind

end SimulationScript.Text
