import SimulationScript.Text.Numeral

/-! # Numerals read back

A numeral consists of digits only, does not begin with a zero unless it is zero, and spells the
number it was written for.
-/

namespace SimulationScript.Text

theorem isDigit_of_mem_numeral {n : Nat} {c : Char} (h : c ∈ numeral n) : c.isDigit :=
  Nat.isDigit_of_mem_toDigits (by decide) (by decide) h

theorem numeralValue_numeral (n : Nat) : numeralValue (numeral n) = n :=
  Nat.ofDigitChars_ten_toDigits

theorem numeral_ne_nil (n : Nat) : numeral n ≠ [] :=
  Nat.toDigits_ne_nil

theorem eq_zero_of_head_numeral {n : Nat} (h : (numeral n).head? = some '0') : n = 0 := by
  induction n using Nat.strongRecOn with
  | _ n ih =>
      rw [numeral, Nat.toDigits_eq_if (by decide)] at h
      split at h
      case isTrue small =>
          have only : ∀ d < 10, d.digitChar = '0' → d = 0 := by decide
          exact only n small (by simpa using h)
      case isFalse large =>
          have front : (numeral (n / 10)).head? = some '0' := by
            rwa [List.head?_append, Option.or_of_isSome (by simp [Nat.toDigits_ne_nil])] at h
          have zero : n / 10 = 0 := ih (n / 10) (by omega) front
          omega

theorem integer_starts (n : Int) : ∃ c more, integer n = c :: more ∧ (c = '-' ∨ c.isDigit) := by
  unfold integer
  split
  · exact ⟨'-', _, rfl, .inl rfl⟩
  · cases shape : numeral n.natAbs with
    | nil => exact absurd shape (numeral_ne_nil _)
    | cons d more =>
        have member : d ∈ numeral n.natAbs := by simp [shape]
        exact ⟨d, more, rfl, .inr (isDigit_of_mem_numeral member)⟩

/-- No digit follows. -/
def DigitsEnd (rest : List Char) : Prop :=
  ∀ c ∈ rest.head?, ¬ c.isDigit

theorem digitsEnd_nil : DigitsEnd [] := by
  intro c noneThere
  cases noneThere

theorem digitsEnd_cons {c : Char} (other : ¬ c.isDigit) (cs : List Char) : DigitsEnd (c :: cs) := by
  intro d first
  cases first
  exact other

theorem spanDigits_append {digits rest : List Char} (all : ∀ c ∈ digits, c.isDigit)
    (ends : DigitsEnd rest) : spanDigits (digits ++ rest) = (digits, rest) := by
  have noneLeft : rest.takeWhile Char.isDigit = [] ∧ rest.dropWhile Char.isDigit = rest := by
    cases rest with
    | nil => exact ⟨rfl, rfl⟩
    | cons c rest => simp [ends c rfl]
  rw [spanDigits, List.takeWhile_append_of_pos all, List.dropWhile_append_of_pos all, noneLeft.1,
    noneLeft.2, List.append_nil]

end SimulationScript.Text
