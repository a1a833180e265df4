import SimulationScript.Proofs.Json.Escape
import SimulationScript.Proofs.Json.Reading
import SimulationScript.Proofs.Literal.Layout
import SimulationScript.Proofs.Literal.Occurrence

/-! # Literals read back as JSON

Putting the JSON words back into a literal undoes its respelling, unless a string or a name holds one
of the words of scripts itself. The text restored is then a document of the value.
-/

namespace SimulationScript.Literal

open Json Text

/-- The words of scripts and their spellings in JSON, in the order in which they are put back. -/
def restorations : Spellings :=
  spellings.map Prod.swap

/-- Puts the JSON words back throughout a text. -/
def restore (cs : List Char) : List Char :=
  replaceEach restorations cs

theorem independent_restorations : Independent restorations where
  nonempty := by decide
  apart := by decide
  settled := by decide
  fresh := by simp [restorations, spellings]

theorem mem_restorations {s : List Char × List Char} (hs : s ∈ spellings) :
    (s.2, s.1) ∈ restorations :=
  List.mem_map.mpr ⟨s, hs, rfl⟩

/-- A word of scripts that begins in a respelled text, after a character that was kept, began there
    before. -/
theorem begins_of_begins_respelled {s : List Char × List Char} (hs : s ∈ spellings) {c : Char}
    {rest : List Char} (begins : s.2 <+: c :: respell rest) : s.2 <+: c :: rest := by
  have tailAvoids : ∀ s ∈ spellings, ∀ s' ∈ spellings,
      ∃ mark, s'.2.head? = some mark ∧ mark ∉ s.2.tail := by
    simp [spellings]
  cases word : s.2 with
  | nil => exact List.nil_prefix
  | cons first more =>
      rw [word, List.cons_prefix_cons] at begins
      have avoids := tailAvoids s hs
      rw [word, List.tail_cons] at avoids
      exact List.cons_prefix_cons.mpr ⟨begins.1,
        prefix_of_prefix_replaceEach independent_spellings.nonempty avoids begins.2⟩

/-- Respelling is undone where the text holds no word of scripts. -/
theorem restore_respell {cs : List Char} (absent : ∀ s ∈ spellings, ¬ s.2 <:+: cs) :
    restore (respell cs) = cs := by
  induction cs using word_induction independent_spellings.nonempty with
  | nil => rw [respell_nil, restore, replaceEach_nil]
  | word s hs rest ih =>
      have absentAfter : ∀ s ∈ spellings, ¬ s.2 <:+: rest := fun s' hs' occurs =>
        absent s' hs' (occurs.trans (List.suffix_append s.1 rest).isInfix)
      have undone := replaceEach_word_append independent_restorations (mem_restorations hs)
        (respell rest)
      rw [respell_word_append hs, restore, undone, ← restore, ih absentAfter]
  | keep c rest unspelled ih =>
      have absentAfter : ∀ s ∈ spellings, ¬ s.2 <:+: rest := fun s' hs' occurs =>
        absent s' hs' (occurs.trans (List.suffix_cons c rest).isInfix)
      have kept : ∀ r ∈ restorations, ¬ r.1 <+: c :: respell rest := by
        intro r hr begins
        obtain ⟨s, hs, rfl⟩ := List.mem_map.mp hr
        exact absent s hs (begins_of_begins_respelled hs begins).isInfix
      rw [respell_keep unspelled, restore, replaceEach_cons independent_restorations kept, ← restore,
        ih absentAfter]

/-! ## Literals -/

theorem outsideLayout_replacement {s : List Char × List Char} (hs : s ∈ spellings) :
    OutsideLayout s.2 where
  nonempty := by
    revert s
    decide
  marks := by
    revert s
    simp [spellings, layoutMarks]

theorem notInScalars_replacement {s : List Char × List Char} (hs : s ∈ spellings) :
    NotInScalars s.2 Style.document where
  null := by
    revert s
    decide
  bool := by
    revert s
    decide
  number n occurs := by
    have notNumeric : ∀ s ∈ spellings, ¬ Numeric s.2 := by decide
    have numeric : Numeric (n.text Number.documentLayout) := Number.numeric_text _ n
    exact notNumeric s hs (numeric.of_subset occurs.subset)

/-- Escaping brings no word of scripts into a text. -/
theorem replacement_infix_quote_iff {s : List Char × List Char} (hs : s ∈ spellings)
    (cs : List Char) : s.2 <:+: quote cs ↔ s.2 <:+: cs := by
  have plain : ∀ s ∈ spellings, s.2.all fun c => IsPlain c := by decide
  have first : ∀ s ∈ spellings, ∀ c ∈ s.2.head?, c ∉ ['\\', 'u', '0', '1'] := by
    simp [spellings]
  have itself : ∀ s ∈ spellings, sources s.2 = [s.2] := by decide
  have nonempty := (outsideLayout_replacement hs).nonempty
  have allPlain : ∀ c ∈ s.2, IsPlain c := by simpa using plain s hs
  have closing : ∀ c ∈ s.2.head?, IsClosing c := fun c hc => isClosing_of_not_mem (first s hs c hc)
  rw [word_infix_quote_iff nonempty allPlain closing, itself s hs]
  simp

/-- A literal is read back: with the JSON words put in again it is a document of its value, whatever
    the strings and names of the value hold besides the words of scripts. -/
theorem literal_reads_back {value : Json} (wellFormed : value.WellFormed)
    (nested : value.depth ≤ 127) (integers : ∀ n ∈ value.numbers, n.isInteger)
    (spared : ∀ text ∈ value.texts, ∀ s ∈ spellings, ¬ s.2 <:+: text.toList) :
    parse (String.ofList (restore (ofJson value).toList)) = .ok value := by
  have absent : ∀ s ∈ spellings, ¬ s.2 <:+: value.pretty 0 := by
    intro s hs
    rw [pretty_eq_laidOut]
    apply not_infix_laidOut (outsideLayout_replacement hs) (notInScalars_replacement hs)
    intro text member occurs
    exact spared text member s hs ((replacement_infix_quote_iff hs text.toList).mp occurs)
  rw [ofJson, String.toList_ofList, restore_respell absent]
  exact parse_pretty ⟨wellFormed, nested, integers⟩

/-- A value of every kind, with both bounds of integers, words of JSON in its texts, and texts that are
    escaped to such words. -/
def everyKind : Json :=
  .obj [
    ("null", .arr [.null, .bool true, .bool false, .arr [], .obj []]),
    ("\null\true", .obj [
      ("most \"", .num (.integer 18446744073709551615 (by decide))),
      ("least \\", .num (.integer (-9223372036854775808) (by decide)))]),
    ("\x01\x7fé", .str "Trtruee fTalse\r\n")]

theorem everyKind_reads_back :
    (∀ text ∈ everyKind.texts, ∀ s ∈ spellings, ¬ s.2 <:+: text.toList) ∧
      parse (String.ofList (restore (ofJson everyKind).toList)) = .ok everyKind := by
  have spared : ∀ text ∈ everyKind.texts, ∀ s ∈ spellings, ¬ s.2 <:+: text.toList := by decide
  have wellFormed : everyKind.WellFormed := by
    simp [everyKind, WellFormed, WellFormedItems, WellFormedMembers, Entries.Distinct, Entries.keys]
  exact ⟨spared, literal_reads_back wellFormed (by decide) (by decide) spared⟩

end SimulationScript.Literal
