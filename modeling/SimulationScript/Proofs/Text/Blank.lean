import Mathlib.Data.List.TakeWhile
import SimulationScript.Text.Blank

/-! # Trimmed texts

Trimming takes blanks off both ends of a text and keeps everything between them.
-/

namespace SimulationScript.Text

variable {c : Char} {cs gap : List Char}

theorem skipBlanks_append (blank : ∀ c ∈ gap, isBlank c) (cs : List Char) :
    skipBlanks (gap ++ cs) = skipBlanks cs :=
  List.dropWhile_append_of_pos blank

theorem skipBlanks_cons (visible : ¬ isBlank c) (cs : List Char) : skipBlanks (c :: cs) = c :: cs :=
  List.dropWhile_cons_of_neg visible

theorem exists_skipBlanks (cs : List Char) :
    ∃ gap, cs = gap ++ skipBlanks cs ∧ ∀ c ∈ gap, isBlank c :=
  ⟨cs.takeWhile isBlank, List.takeWhile_append_dropWhile.symm, fun _ => List.mem_takeWhile_imp⟩

/-- What trimming takes off. -/
theorem exists_trim (cs : List Char) :
    ∃ front back, cs = front ++ trim cs ++ back ∧ (∀ c ∈ front, isBlank c) ∧
      ∀ c ∈ back, isBlank c := by
  obtain ⟨front, splitFront, blankFront⟩ := exists_skipBlanks cs
  obtain ⟨back, splitBack, blankBack⟩ := exists_skipBlanks (skipBlanks cs).reverse
  refine ⟨front, back.reverse, ?_, blankFront, fun c hc => blankBack c (List.mem_reverse.mp hc)⟩
  have core : skipBlanks cs = trim cs ++ back.reverse := by
    rw [trim, ← List.reverse_append, ← splitBack, List.reverse_reverse]
  rw [List.append_assoc, ← core]
  exact splitFront

theorem mem_trim (visible : ¬ isBlank c) (member : c ∈ cs) : c ∈ trim cs := by
  obtain ⟨front, back, split, blankFront, blankBack⟩ := exists_trim cs
  rw [split, List.mem_append, List.mem_append] at member
  rcases member with (ahead | inside) | behind
  · exact absurd (blankFront c ahead) visible
  · exact inside
  · exact absurd (blankBack c behind) visible

theorem trim_append (blank : ∀ c ∈ gap, isBlank c) (cs : List Char) :
    trim (gap ++ cs) = trim cs := by
  rw [trim, skipBlanks_append blank, trim]

/-- A text begins with a character that is not blank. -/
def Starts (cs : List Char) : Prop :=
  ∃ c ∈ cs.head?, ¬ isBlank c

/-- A text ends with a character that is not blank. -/
def Ends (cs : List Char) : Prop :=
  ∃ c ∈ cs.getLast?, ¬ isBlank c

theorem Starts.append (starts : Starts cs) (rest : List Char) : Starts (cs ++ rest) := by
  obtain ⟨c, first, visible⟩ := starts
  exact ⟨c, by simp [List.head?_append, Option.mem_def.mp first], visible⟩

theorem Ends.append (ends : Ends cs) (front : List Char) : Ends (front ++ cs) := by
  obtain ⟨c, last, visible⟩ := ends
  exact ⟨c, by simp [List.getLast?_append, Option.mem_def.mp last], visible⟩

theorem Ends.cons (ends : Ends cs) (c : Char) : Ends (c :: cs) :=
  ends.append [c]

theorem Ends.reverse (ends : Ends cs) : Starts cs.reverse := by
  obtain ⟨c, last, visible⟩ := ends
  exact ⟨c, by rwa [List.head?_reverse], visible⟩

theorem Starts.skipBlanks (starts : Starts cs) : skipBlanks cs = cs := by
  obtain ⟨c, first, visible⟩ := starts
  obtain ⟨rest, rfl⟩ := List.head?_eq_some_iff.mp first
  exact skipBlanks_cons visible rest

/-- Trimming takes off the blanks around a text that blanks neither begin nor end. -/
theorem trim_between {front back : List Char} (starts : Starts cs) (ends : Ends cs)
    (blankFront : ∀ c ∈ front, isBlank c) (blankBack : ∀ c ∈ back, isBlank c) :
    trim (front ++ cs ++ back) = cs := by
  have blankReverse : ∀ c ∈ back.reverse, isBlank c := fun c hc =>
    blankBack c (List.mem_reverse.mp hc)
  rw [List.append_assoc, trim_append blankFront, trim, (starts.append back).skipBlanks,
    List.reverse_append, skipBlanks_append blankReverse, ends.reverse.skipBlanks,
    List.reverse_reverse]

theorem length_trim_le (cs : List Char) : (trim cs).length ≤ cs.length := by
  obtain ⟨front, back, split, _⟩ := exists_trim cs
  have lengths := congrArg List.length split
  simp only [List.length_append] at lengths
  omega

end SimulationScript.Text
