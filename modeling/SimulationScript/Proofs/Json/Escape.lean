import Mathlib.Data.List.Infix
import SimulationScript.Json.Quoted

/-! # Words in escaped text

A word of plain letters can begin in an escaped text where no word began before: an escape may end
in the first letter of the word. The rest of the word then stands in the text itself.
-/

namespace SimulationScript.Json

/-- A character that is written as it is, and that begins no escape. -/
def IsPlain (c : Char) : Prop :=
  escape c = [c] ∧ c ≠ '\\'

instance (c : Char) : Decidable (IsPlain c) :=
  inferInstanceAs (Decidable (_ ∧ _))

/-- A character that stands nowhere in an escape but at its end. -/
def IsClosing (c : Char) : Prop :=
  ∀ d, c ∉ (escape d).dropLast

/-- The characters that are not written as they are. -/
def escaped : List Char :=
  '"' :: '\\' :: (List.range 0x20).map Char.ofNat

theorem escape_eq_self {c : Char} (h : c ∉ escaped) : escape c = [c] := by
  have printable : ¬ c.toNat < 0x20 := by
    intro control
    apply h
    simp only [escaped, List.mem_cons, List.mem_map, List.mem_range]
    exact .inr (.inr ⟨c.toNat, control, Char.ofNat_toNat c⟩)
  have apart (d : Char) (hd : d ∈ escaped) : c ≠ d := fun same => h (same ▸ hd)
  unfold escape
  repeat rw [if_neg (apart _ (by decide))]
  rw [if_neg printable]

theorem escape_head {c : Char} (h : c ∈ escaped) : (escape c).head? = some '\\' := by
  have allSlashed : escaped.all fun c => (escape c).head? = some '\\' := by decide
  simpa using List.all_eq_true.mp allSlashed c h

theorem isClosing_of_not_mem {c : Char} (h : c ∉ ['\\', 'u', '0', '1']) : IsClosing c := by
  have beforeLast : escaped.all fun d => (escape d).dropLast.all (· ∈ ['\\', 'u', '0', '1']) := by
    decide
  intro d inside
  by_cases hd : d ∈ escaped
  · have allCodes := List.all_eq_true.mp (List.all_eq_true.mp beforeLast d hd) c inside
    exact h (of_decide_eq_true allCodes)
  · simp [escape_eq_self hd] at inside

theorem prefix_escaped_iff {letters : List Char} (plain : ∀ c ∈ letters, IsPlain c) (cs : List Char) :
    letters <+: cs.flatMap escape ↔ letters <+: cs := by
  induction letters generalizing cs with
  | nil => simp
  | cons first more ih =>
      obtain ⟨⟨itself, notSlash⟩, plain⟩ := List.forall_mem_cons.mp plain
      cases cs with
      | nil => simp
      | cons c cs =>
          rw [List.flatMap_cons]
          by_cases hc : c ∈ escaped
          · obtain ⟨code, hcode⟩ := List.head?_eq_some_iff.mp (escape_head hc)
            have other : first ≠ c := by
              intro same
              subst same
              rw [itself, List.cons.injEq] at hcode
              exact notSlash hcode.1
            simp [hcode, other, notSlash]
          · rw [escape_eq_self hc, List.singleton_append, List.cons_prefix_cons,
              List.cons_prefix_cons, ih plain]

theorem cons_infix_append_iff {α : Type} {first : α} {more part rest : List α}
    (h : first ∉ part.dropLast) :
    first :: more <:+: part ++ rest ↔
      (part.getLast? = some first ∧ more <+: rest) ∨ first :: more <:+: rest := by
  induction part with
  | nil => simp
  | cons c part ih =>
      cases part with
      | nil =>
          rw [List.singleton_append, List.infix_cons_iff, List.cons_prefix_cons]
          simp [eq_comm]
      | cons d part =>
          rw [List.dropLast_cons_cons, List.mem_cons, not_or] at h
          rw [List.cons_append, List.infix_cons_iff, List.cons_prefix_cons, ih h.2,
            List.getLast?_cons_cons]
          simp [h.1]

/-- A word occurs in an escaped text exactly when its rest occurs in the text after a character
    whose escape ends in the first letter. -/
theorem word_infix_escaped_iff {first : Char} {more : List Char} (closing : IsClosing first)
    (plain : ∀ c ∈ more, IsPlain c) (cs : List Char) :
    first :: more <:+: cs.flatMap escape ↔
      ∃ c, (escape c).getLast? = some first ∧ c :: more <:+: cs := by
  induction cs with
  | nil => simp
  | cons d cs ih =>
      rw [List.flatMap_cons, cons_infix_append_iff (closing d), prefix_escaped_iff plain, ih]
      constructor
      · intro occurs
        rcases occurs with ⟨last, begins⟩ | ⟨c, last, occurs⟩
        · exact ⟨d, last, (List.cons_prefix_cons.mpr ⟨rfl, begins⟩).isInfix⟩
        · exact ⟨c, last, occurs.trans (List.suffix_cons d cs).isInfix⟩
      · intro found
        obtain ⟨c, last, occurs⟩ := found
        rcases List.infix_cons_iff.mp occurs with here | later
        · obtain ⟨rfl, begins⟩ := List.cons_prefix_cons.mp here
          exact .inl ⟨last, begins⟩
        · exact .inr ⟨c, last, later⟩

theorem infix_quote_iff {word cs : List Char} (nonempty : word ≠ []) (unquoted : '"' ∉ word) :
    word <:+: quote cs ↔ word <:+: cs.flatMap escape := by
  rw [quote, List.cons_append, List.infix_cons_iff, List.infix_concat_iff]
  constructor
  · intro occurs
    rcases occurs with front | back | inside
    · cases word with
      | nil => exact absurd rfl nonempty
      | cons first more => simp [(List.cons_prefix_cons.mp front).1] at unquoted
    · rcases List.suffix_concat_iff.mp back with rfl | ⟨init, rfl, _⟩
      · exact absurd rfl nonempty
      · simp at unquoted
    · exact inside
  · exact fun inside => .inr (.inr inside)

/-- The characters whose escape ends in a letter that is written as it is. -/
def openers (letter : Char) : List Char :=
  letter :: escaped.filter fun c => (escape c).getLast? = some letter

theorem mem_openers_iff {letter : Char} (plain : IsPlain letter) (c : Char) :
    c ∈ openers letter ↔ (escape c).getLast? = some letter := by
  rw [openers, List.mem_cons, List.mem_filter, decide_eq_true_iff]
  by_cases hc : c ∈ escaped
  · constructor
    · intro member
      rcases member with rfl | ⟨_, last⟩
      · rw [plain.1, List.getLast?_singleton]
      · exact last
    · exact fun last => .inr ⟨hc, last⟩
  · simp [escape_eq_self hc, hc]

/-- The texts that become a word, or end in it, once they are escaped. -/
def sources : List Char → List (List Char)
  | [] => []
  | first :: more => (openers first).map (· :: more)

/-- A quoted text contains a word of plain letters exactly when the text contains a source of it. -/
theorem word_infix_quote_iff {word : List Char} (nonempty : word ≠ [])
    (plain : ∀ c ∈ word, IsPlain c) (closing : ∀ c ∈ word.head?, IsClosing c) (cs : List Char) :
    word <:+: quote cs ↔ ∃ source ∈ sources word, source <:+: cs := by
  have unquoted : '"' ∉ word := fun member => absurd (plain '"' member) (by decide)
  rw [infix_quote_iff nonempty unquoted]
  cases word with
  | nil => exact absurd rfl nonempty
  | cons first more =>
      obtain ⟨plainFirst, plainMore⟩ := List.forall_mem_cons.mp plain
      rw [word_infix_escaped_iff (closing first rfl) plainMore]
      simp only [sources, List.mem_map, exists_exists_and_eq_and, mem_openers_iff plainFirst]

end SimulationScript.Json
