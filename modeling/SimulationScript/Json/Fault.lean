/-! # Faults of JSON text

Why a text cannot be read. The first fault from the left decides.
-/

namespace SimulationScript

/-- Why a text cannot be read as a value of the expected kind. -/
inductive TextFault where
  /-- Something stands where the grammar does not allow it. -/
  | malformed
  | truncated
  /-- The text is sound so far but holds a value of another kind. -/
  | mismatch
  deriving DecidableEq, Repr

/-- A reader takes a value off the front of a text and returns the rest. -/
abbrev TextReader (α : Type) := List Char → Except TextFault (α × List Char)

end SimulationScript
