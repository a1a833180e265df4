import Mathlib.Data.List.Basic
import SimulationScript.Script

/-! # Definitions before uses

A script is run from its first entry to its last, so what an entry uses has to be defined by an
entry before it.
-/

namespace SimulationScript.Script

/-- Every entry `use` has an entry `definition` before it. -/
def Precedes (definition use : String) (lines : List String) : Prop :=
  ∀ front back, lines = front ++ use :: back → definition ∈ front

theorem precedes_of_not_mem {definition use : String} {lines : List String} (h : use ∉ lines) :
    Precedes definition use lines := by
  intro front back split
  subst split
  simp at h

theorem Precedes.mem {definition use : String} {lines : List String}
    (h : Precedes definition use lines) (used : use ∈ lines) : definition ∈ lines := by
  obtain ⟨front, back, rfl⟩ := List.append_of_mem used
  exact List.mem_append_left _ (h front back rfl)

/-- A definition in a part of the script without uses precedes every use after this part. -/
theorem precedes_append {definition use : String} {front : List String} (defined : definition ∈ front)
    (unused : use ∉ front) (back : List String) : Precedes definition use (front ++ back) := by
  intro left right split
  rcases List.append_eq_append_iff.mp split with ⟨more, hleft, hback⟩ | ⟨more, hfront, hback⟩
  · rw [hleft]
    exact List.mem_append_left more defined
  · cases more with
    | nil => simpa [hfront] using defined
    | cons entry more =>
        obtain rfl := (List.cons.inj hback).1
        simp [hfront] at unused

end SimulationScript.Script
