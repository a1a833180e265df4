import Mathlib.Data.List.TakeWhile

/-! # Texts up to a mark

A list is split at the first place of a mark, and what stands before that place is all that has to be
free of the mark for the split to be known.
-/

namespace SimulationScript.Text

variable {α : Type} [DecidableEq α] {mark : α} {front back : List α}

theorem all_ne_of_not_mem (unmarked : mark ∉ front) : ∀ other ∈ front, (other != mark) = true := by
  intro other among
  rw [bne_iff_ne]
  rintro rfl
  exact unmarked among

theorem takeWhile_ne_append (unmarked : mark ∉ front) (back : List α) :
    (front ++ mark :: back).takeWhile (· != mark) = front := by
  rw [List.takeWhile_append_of_pos (all_ne_of_not_mem unmarked)]
  simp

theorem dropWhile_ne_append (unmarked : mark ∉ front) (back : List α) :
    (front ++ mark :: back).dropWhile (· != mark) = mark :: back := by
  rw [List.dropWhile_append_of_pos (all_ne_of_not_mem unmarked)]
  simp

theorem append_mark_inj {front' back' : List α} (unmarked : mark ∉ front) (unmarked' : mark ∉ front')
    (same : front ++ mark :: back = front' ++ mark :: back') : front = front' ∧ back = back' := by
  have sameFront := congrArg (List.takeWhile (· != mark)) same
  have sameBack := congrArg (List.dropWhile (· != mark)) same
  rw [takeWhile_ne_append unmarked, takeWhile_ne_append unmarked'] at sameFront
  rw [dropWhile_ne_append unmarked, dropWhile_ne_append unmarked'] at sameBack
  exact ⟨sameFront, (List.cons.inj sameBack).2⟩

end SimulationScript.Text
