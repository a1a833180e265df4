import SimulationScript.Proofs.Json.Style
import SimulationScript.Proofs.Literal.Respelling
import SimulationScript.Proofs.Number.Characters

/-! # Literals leaf by leaf

The layout of a value consists of characters that stand in no word, so respelling the whole text is
respelling each leaf. Numbers hold none of the words, and the words of JSON are leaves of their own.
-/

namespace SimulationScript.Literal

open Json

theorem isMark_of_mem_layoutMarks : ∀ c ∈ layoutMarks, IsMark c := by
  simp [layoutMarks, IsMark, spellings]

theorem layoutCongruence_respell : LayoutCongruence fun cs respelled => respell cs = respelled where
  nil := respell_nil
  mark among same := by rw [respell_mark_cons (isMark_of_mem_layoutMarks _ among), same]
  join parted sameFront sameBack := by
    rw [respell_append fun c hc => isMark_of_mem_layoutMarks c (parted c hc), sameFront, sameBack]

theorem respell_laidOut (spacing : Spacing) (style : Style) (level : Nat) (value : Json) :
    respell (value.laidOut spacing style level) = value.laidOut spacing (style.map respell) level := by
  have scalars : ScalarsRelated (fun cs respelled => respell cs = respelled) style
      (style.map respell) := ⟨rfl, fun _ => rfl, fun _ => rfl⟩
  exact related_laidOut layoutCongruence_respell scalars spacing level value fun _ _ => rfl

theorem respell_number (n : Number) :
    respell (n.text Number.documentLayout) = n.text Number.documentLayout := by
  have numeric : Numeric (n.text Number.documentLayout) := Number.numeric_text _ n
  exact respell_eq_self_of_initials (numeric.not_mem (by decide)) (numeric.not_mem (by decide))
    (numeric.not_mem (by decide))

theorem respell_pretty (level : Nat) (value : Json) :
    respell (value.pretty level) = (Style.document.map respell).print level value := by
  rw [pretty_eq_laidOut, respell_laidOut, Style.print]

/-- The leaves as literals have them: the three words in their own spelling, numbers as in a document,
    and each quoted text respelled on its own. -/
def leafStyle : Style where
  null := "None".toList
  bool b := if b then "True".toList else "False".toList
  number n := n.text Number.documentLayout
  quoted cs := respell (quote cs)

theorem map_respell_document : Style.document.map respell = leafStyle := by
  have null : respell "null".toList = "None".toList := respell_word (by decide)
  have yes : respell "true".toList = "True".toList := respell_word (by decide)
  have no : respell "false".toList = "False".toList := respell_word (by decide)
  simp only [Style.map, Style.document, leafStyle, Style.mk.injEq, null, respell_number, true_and,
    and_true]
  funext b
  cases b with
  | true => exact yes
  | false => exact no

/-- A literal is written by walking its value in the layout of an indented document, whatever texts
    and names it holds: no replacement reaches beyond one leaf. -/
theorem literal_is_written_leaf_by_leaf (value : Json) :
    value.pretty 0 = Style.document.print 0 value ∧
      ofJson value = String.ofList (leafStyle.print 0 value) := by
  refine ⟨pretty_eq_laidOut 0 value, ?_⟩
  rw [ofJson, respell_pretty, map_respell_document]

end SimulationScript.Literal
