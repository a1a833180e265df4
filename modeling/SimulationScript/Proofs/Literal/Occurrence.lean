import SimulationScript.Proofs.Json.Style
import SimulationScript.Proofs.Literal.Respelling

/-! # Words in values laid out

A word of which no part stands in the layout does not reach from one leaf of a value into the next, so
it occurs in the whole only where it occurs in a leaf.
-/

namespace SimulationScript.Literal

open Json

variable {word front back : List Char} {mark : Char}

/-- A word of which no part stands in the layout. -/
structure OutsideLayout (word : List Char) : Prop where
  nonempty : word ≠ []
  marks : ∀ mark ∈ layoutMarks, mark ∉ word

theorem OutsideLayout.not_infix_nil (outside : OutsideLayout word) : ¬ word <:+: [] :=
  fun occurs => outside.nonempty (List.eq_nil_of_infix_nil occurs)

theorem infix_append_mark_iff (outside : OutsideLayout word) (hmark : mark ∈ layoutMarks) :
    word <:+: front ++ mark :: back ↔ word <:+: front ∨ word <:+: back := by
  have apart := outside.marks mark hmark
  induction front with
  | nil =>
      rw [List.nil_append, List.infix_cons_iff]
      constructor
      · intro occurs
        rcases occurs with begins | later
        · have short : word <+: [] := prefix_of_prefix_append_mark apart begins
          exact .inl short.isInfix
        · exact .inr later
      · exact fun occurs => .inr (occurs.resolve_left outside.not_infix_nil)
  | cons c front ih =>
      have here : word <+: c :: front ++ mark :: back ↔ word <+: c :: front :=
        ⟨prefix_of_prefix_append_mark apart,
          fun begins => begins.trans (List.prefix_append (c :: front) (mark :: back))⟩
      rw [List.cons_append] at here ⊢
      simp only [List.infix_cons_iff, here, ih, or_assoc]

theorem infix_mark_cons_iff (outside : OutsideLayout word) (hmark : mark ∈ layoutMarks) :
    word <:+: mark :: back ↔ word <:+: back := by
  have split : word <:+: [] ++ mark :: back ↔ word <:+: [] ∨ word <:+: back :=
    infix_append_mark_iff outside hmark
  exact split.trans (or_iff_right outside.not_infix_nil)

theorem infix_append_iff (outside : OutsideLayout word)
    (parted : ∀ c ∈ back.head?, c ∈ layoutMarks) :
    word <:+: front ++ back ↔ word <:+: front ∨ word <:+: back := by
  cases back with
  | nil => rw [List.append_nil, or_iff_left outside.not_infix_nil]
  | cons mark back =>
      have hmark : mark ∈ layoutMarks := parted mark rfl
      rw [infix_append_mark_iff outside hmark, infix_mark_cons_iff outside hmark]

theorem OutsideLayout.layoutCongruence (outside : OutsideLayout word) :
    LayoutCongruence fun cs _ => ¬ word <:+: cs where
  nil := outside.not_infix_nil
  mark among absent := by rwa [infix_mark_cons_iff outside among]
  join parted absentFront absentBack := by
    rw [infix_append_iff outside parted]
    exact not_or.mpr ⟨absentFront, absentBack⟩

/-- No scalar of the style holds the word. -/
structure NotInScalars (word : List Char) (style : Style) : Prop where
  null : ¬ word <:+: style.null
  bool : ∀ b, ¬ word <:+: style.bool b
  number : ∀ n, ¬ word <:+: style.number n

/-- A word outside the layout occurs in a value laid out only in a scalar or in what is quoted. -/
theorem not_infix_laidOut {style : Style} (outside : OutsideLayout word)
    (scalars : NotInScalars word style) (spacing : Spacing) (level : Nat) {value : Json}
    (quotes : ∀ text ∈ value.texts, ¬ word <:+: style.quoted text.toList) :
    ¬ word <:+: value.laidOut spacing style level := by
  have related : ScalarsRelated (fun cs _ => ¬ word <:+: cs) style style :=
    ⟨scalars.null, scalars.bool, scalars.number⟩
  exact related_laidOut outside.layoutCongruence related spacing level value quotes

end SimulationScript.Literal
