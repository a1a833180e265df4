import SimulationScript.Proofs.Json.Escape
import SimulationScript.Proofs.Literal.Layout

/-! # Literals with untouched strings

A literal leaves the strings and names of its value alone exactly when none of them holds a text
that is escaped to one of the three words.
-/

namespace SimulationScript.Literal

open Json

/-- The leaves as scripts have them: the three words in their own spelling, all else as in a
    document. -/
def scriptStyle : Style :=
  { Style.document with
    null := "None".toList
    bool b := if b then "True".toList else "False".toList }

theorem sameOutsideQuotes_script : (Style.document.map respell).SameOutsideQuotes scriptStyle where
  null := (congrArg Style.null map_respell_document).trans rfl
  bool := (congrArg Style.bool map_respell_document).trans rfl
  number := (congrArg Style.number map_respell_document).trans rfl
  length cs := length_respell (quote cs)

/-- What a text must not hold so that it stays as it is between quotes: the three words, and the
    texts whose escapes end in them, as that of a line break before `ull` does. -/
def hazards : List (List Char) :=
  ["true".toList, "\true".toList, "false".toList, "\x0calse".toList, "\x0false".toList,
    "\x1false".toList, "null".toList, "\null".toList]

theorem hazards_eq_sources : hazards = spellings.flatMap fun s => sources s.1 := by
  decide

theorem respell_quote_eq_self_iff {cs : List Char} :
    respell (quote cs) = quote cs ↔ ∀ hazard ∈ hazards, ¬ hazard <:+: cs := by
  have allPlain : ∀ s ∈ spellings, s.1.all (IsPlain ·) := by decide
  have plain : ∀ s ∈ spellings, ∀ c ∈ s.1, IsPlain c := fun s hs => by simpa using allPlain s hs
  have first : ∀ s ∈ spellings, ∀ c ∈ s.1.head?, c ∉ ['\\', 'u', '0', '1'] := by
    simp [spellings]
  have occurs (s : List Char × List Char) (hs : s ∈ spellings) :=
    word_infix_quote_iff (independent_spellings.nonempty s hs) (plain s hs)
      (fun c hc => isClosing_of_not_mem (first s hs c hc)) cs
  rw [respell_eq_self_iff, hazards_eq_sources]
  simp only [List.mem_flatMap]
  constructor
  · intro absent hazard member held
    obtain ⟨s, hs, source⟩ := member
    exact absent s hs ((occurs s hs).mpr ⟨hazard, source, held⟩)
  · intro harmless s hs found
    obtain ⟨source, hsource, held⟩ := (occurs s hs).mp found
    exact harmless source ⟨s, hs, hsource⟩ held

/-- A literal is the indented text of its value with only the three words respelled and every string
    and name quoted as in a document, exactly when no string and no name holds a hazard. -/
theorem literal_keeps_quotes_iff (value : Json) :
    ofJson value = String.ofList (scriptStyle.print 0 value) ↔
      ∀ text ∈ value.texts, ∀ hazard ∈ hazards, ¬ hazard <:+: text.toList := by
  rw [ofJson, String.ofList_inj, respell_pretty, Style.print, Style.print,
    laidOut_eq_iff sameOutsideQuotes_script]
  exact forall₂_congr fun text _ => respell_quote_eq_self_iff

/-- A string without any of the words that its literal changes nevertheless. -/
theorem literal_changes_line_break :
    (∀ text ∈ (Json.str "\null").texts, ∀ s ∈ spellings, ¬ s.1 <:+: text.toList) ∧
      ofJson (.str "\null") = "\"\\None\"" ∧
      String.ofList (scriptStyle.print 0 (.str "\null")) = "\"\\null\"" := by
  have escaped : (Json.str "\null").pretty 0 = '"' :: '\\' :: ("null".toList ++ ['"']) := by decide
  have noneThere : ("null".toList, "None".toList) ∈ spellings := by decide
  have respelled : ofJson (.str "\null") = "\"\\None\"" := by
    rw [ofJson, escaped, respell_mark_cons (by decide), respell_mark_cons (by decide),
      respell_word_append noneThere, respell_mark_cons (by decide), respell_nil]
    decide
  exact ⟨by decide, respelled, by decide⟩

end SimulationScript.Literal
