import SimulationScript.Literal
import SimulationScript.Proofs.Text.Replacement

/-! # Respelling a text

The three words of literals are independent, so a respelled text is the text read once from left to
right. Characters that stand in no word part a text into pieces that are respelled on their own.
-/

namespace SimulationScript.Literal

open Text

theorem independent_spellings : Independent spellings where
  nonempty := by decide
  apart := by decide
  settled := by decide
  fresh := by simp [spellings]

theorem respell_nil : respell [] = [] :=
  replaceEach_nil

theorem respell_word_append {s : List Char × List Char} (hs : s ∈ spellings) (rest : List Char) :
    respell (s.1 ++ rest) = s.2 ++ respell rest :=
  replaceEach_word_append independent_spellings hs rest

theorem respell_word {word replacement : List Char} (h : (word, replacement) ∈ spellings) :
    respell word = replacement := by
  have whole := respell_word_append h []
  dsimp only at whole
  rwa [respell_nil, List.append_nil, List.append_nil] at whole

theorem respell_keep {c : Char} {rest : List Char} (absent : ∀ s ∈ spellings, ¬ s.1 <+: c :: rest) :
    respell (c :: rest) = c :: respell rest :=
  replaceEach_cons independent_spellings absent

theorem length_replacement {s : List Char × List Char} (hs : s ∈ spellings) :
    s.2.length = s.1.length := by
  revert s
  decide

theorem replacement_ne {s : List Char × List Char} (hs : s ∈ spellings) : s.2 ≠ s.1 := by
  revert s
  decide

theorem length_respell (cs : List Char) : (respell cs).length = cs.length := by
  induction cs using word_induction independent_spellings.nonempty with
  | nil => rw [respell_nil]
  | word s hs rest ih =>
      rw [respell_word_append hs, List.length_append, List.length_append, ih, length_replacement hs]
  | keep c rest absent ih => rw [respell_keep absent, List.length_cons, List.length_cons, ih]

/-- A respelled text is as before exactly when none of the words occurs in it. -/
theorem respell_eq_self_iff {cs : List Char} :
    respell cs = cs ↔ ∀ s ∈ spellings, ¬ s.1 <:+: cs := by
  induction cs using word_induction independent_spellings.nonempty with
  | nil => simpa [respell_nil] using fun word r h => independent_spellings.nonempty (word, r) h
  | word s hs rest ih =>
      rw [respell_word_append hs]
      constructor
      · intro same
        exact absurd (List.append_inj same (length_replacement hs)).1 (replacement_ne hs)
      · intro absent
        exact absurd (List.prefix_append s.1 rest).isInfix (absent s hs)
  | keep c rest absent ih =>
      rw [respell_keep absent, List.cons.injEq, ih]
      simp only [true_and, List.infix_cons_iff, not_or]
      exact ⟨fun h s hs => ⟨absent s hs, h s hs⟩, fun h s hs => (h s hs).2⟩

/-- A character that stands in no word. -/
def IsMark (c : Char) : Prop :=
  ∀ s ∈ spellings, c ∉ s.1

instance (c : Char) : Decidable (IsMark c) :=
  inferInstanceAs (Decidable (∀ _ ∈ _, _))

section Marks

variable {mark : Char}

theorem prefix_of_prefix_append_mark {word front back : List Char} (outside : mark ∉ word)
    (h : word <+: front ++ mark :: back) : word <+: front := by
  rcases List.prefix_or_prefix_of_prefix h (List.prefix_append front (mark :: back)) with
    inside | ⟨more, rfl⟩
  · exact inside
  · rw [List.prefix_append_right_inj] at h
    cases more with
    | nil => simp
    | cons c more =>
        obtain ⟨rfl, _⟩ := List.cons_prefix_cons.mp h
        simp at outside

theorem respell_mark_cons (hmark : IsMark mark) (cs : List Char) :
    respell (mark :: cs) = mark :: respell cs := by
  apply respell_keep
  intro s hs begins
  have atFront : s.1 <+: [] ++ mark :: cs := begins
  have short := prefix_of_prefix_append_mark (hmark s hs) atFront
  exact independent_spellings.nonempty s hs (List.prefix_nil.mp short)

/-- No word reaches across a mark. -/
theorem respell_append_mark (hmark : IsMark mark) (front back : List Char) :
    respell (front ++ mark :: back) = respell front ++ mark :: respell back := by
  induction front using word_induction independent_spellings.nonempty with
  | nil => rw [respell_nil, List.nil_append, List.nil_append, respell_mark_cons hmark]
  | word s hs rest ih =>
      rw [List.append_assoc, respell_word_append hs, respell_word_append hs, ih, List.append_assoc]
  | keep c rest absent ih =>
      have absentBefore : ∀ s ∈ spellings, ¬ s.1 <+: c :: (rest ++ mark :: back) := fun s hs begins =>
        absent s hs (prefix_of_prefix_append_mark (hmark s hs) begins)
      rw [List.cons_append, respell_keep absentBefore, respell_keep absent, ih, List.cons_append]

theorem respell_append {back : List Char} (parted : ∀ c ∈ back.head?, IsMark c) (front : List Char) :
    respell (front ++ back) = respell front ++ respell back := by
  cases back with
  | nil => rw [List.append_nil, respell_nil, List.append_nil]
  | cons mark back =>
      have hmark : IsMark mark := parted mark rfl
      rw [respell_append_mark hmark, respell_mark_cons hmark]

end Marks

/-- A text without the first letter of any word is left alone. -/
theorem respell_eq_self_of_initials {cs : List Char} (t : 't' ∉ cs) (f : 'f' ∉ cs) (n : 'n' ∉ cs) :
    respell cs = cs := by
  have everyWord : ∀ s ∈ spellings, 't' ∈ s.1 ∨ 'f' ∈ s.1 ∨ 'n' ∈ s.1 := by decide
  rw [respell_eq_self_iff]
  intro s hs occurs
  rcases everyWord s hs with initial | initial | initial
  · exact t (occurs.subset initial)
  · exact f (occurs.subset initial)
  · exact n (occurs.subset initial)

/-! ## Respelled texts -/

theorem fresh_spellings : Fresh spellings := by
  simp [Fresh, spellings]

/-- Respelling leaves none of the words behind, so that to do it again changes nothing, and the words
    can be replaced in any order. -/
theorem respelled_text_is_settled (cs : List Char) :
    (∀ word ∈ ["true".toList, "false".toList, "null".toList], ¬ word <:+: respell cs) ∧
      respell (respell cs) = respell cs ∧
      ∀ order : Spellings, order.Perm spellings → replaceEach order cs = respell cs := by
  have settled : ∀ s ∈ spellings, ¬ s.1 <:+: respell cs := fun s hs =>
    not_infix_replaceEach independent_spellings fresh_spellings hs cs
  refine ⟨fun word among => ?_, respell_eq_self_iff.mpr settled, fun order perm => ?_⟩
  · have words : ["true".toList, "false".toList, "null".toList] = spellings.map (·.1) := rfl
    rw [words] at among
    obtain ⟨s, hs, rfl⟩ := List.mem_map.mp among
    exact settled s hs
  · exact replaceEach_perm independent_spellings fresh_spellings perm cs

theorem adjoining_words_respell_in_reverse :
    spellings.reverse.Perm spellings ∧
      replaceEach spellings.reverse "ntruenullfalsenul".toList = respell "ntruenullfalsenul".toList ∧
      respell "ntruenullfalsenul".toList = "nTrueNoneFalsenul".toList := by
  have reversed : spellings.reverse.Perm spellings := spellings.reverse_perm
  refine ⟨reversed, (respelled_text_is_settled _).2.2 _ reversed, ?_⟩
  decide +kernel

end SimulationScript.Literal
