import Mathlib.Data.List.Basic
import SimulationScript.Number.Basic

/-! # Characters of numbers

Every layout writes numbers in digits, signs, points and the letter of the exponent.
-/

namespace SimulationScript

/-- A text of characters that may stand in a number. -/
def Numeric (cs : List Char) : Prop :=
  ∀ c ∈ cs, c.isDigit ∨ c ∈ ['-', '+', '.', 'e']

namespace Numeric

variable {cs ds : List Char}

instance : Decidable (Numeric cs) :=
  List.decidableBAll _ cs

theorem of_subset (h : Numeric ds) (subset : cs ⊆ ds) : Numeric cs :=
  fun c hc => h c (subset hc)

theorem not_mem {c : Char} (h : Numeric cs) (hc : ¬ Numeric [c]) : c ∉ cs :=
  fun member => hc (h.of_subset (List.cons_subset.mpr ⟨member, List.nil_subset cs⟩))

theorem append (hcs : Numeric cs) (hds : Numeric ds) : Numeric (cs ++ ds) :=
  List.forall_mem_append.mpr ⟨hcs, hds⟩

theorem cons {c : Char} (hc : Numeric [c]) (hcs : Numeric cs) : Numeric (c :: cs) :=
  append hc hcs

theorem zeros (n : Nat) : Numeric (List.replicate n '0') :=
  fun _ hc => .inl (List.eq_of_mem_replicate hc ▸ by decide)

end Numeric

open Numeric

theorem Text.numeric_numeral (n : Nat) : Numeric (Text.numeral n) :=
  fun _ hc => .inl (Nat.isDigit_of_mem_toDigits (by decide) (by decide) hc)

theorem Text.numeric_integer (n : Int) : Numeric (Text.integer n) := by
  unfold Text.integer
  split
  · exact cons (by decide) (numeric_numeral n.natAbs)
  · exact numeric_numeral n.natAbs

theorem Decimal.numeric_digits (d : Decimal) : Numeric d.digits := by
  apply (Text.numeric_numeral d.coefficient).of_subset
  intro c hc
  rw [digits, List.mem_reverse] at hc
  exact List.mem_reverse.mp ((List.dropWhile_sublist _).subset hc)

namespace Layout

variable {digits : List Char}

theorem numeric_positional (layout : Layout) (hdigits : Numeric digits) (point : Int) :
    Numeric (layout.positional digits point) := by
  unfold positional
  split
  · exact append (cons (by decide) (cons (by decide) (zeros _))) hdigits
  · have whole : Numeric (digits.take point.toNat) := hdigits.of_subset (List.take_subset _ _)
    have fraction : Numeric (digits.drop point.toNat) := hdigits.of_subset (List.drop_subset _ _)
    dsimp only
    split
    · apply append (append whole (zeros _))
      split <;> decide
    · exact append (append whole (zeros _)) (cons (by decide) fraction)

theorem numeric_scientific (hdigits : Numeric digits) (exponent : Int) :
    Numeric (scientific digits exponent) := by
  have sign : Numeric [if exponent < 0 then '-' else '+'] := by
    split <;> decide
  refine append ?_ (cons (by decide) (cons sign (Text.numeric_numeral _)))
  cases digits with
  | nil => decide
  | cons d more =>
      have hd : Numeric [d] := hdigits.of_subset (by simp)
      have hmore : Numeric more := hdigits.of_subset (List.subset_cons_self d more)
      cases more with
      | nil => exact hd
      | cons d' more => exact cons hd (cons (by decide) hmore)

theorem numeric_text (layout : Layout) (x : Binary64) : Numeric (layout.text x) := by
  have sign : Numeric (if x.negative then ['-'] else []) := by
    split <;> decide
  unfold text
  dsimp only
  split
  · apply append sign
    split <;> decide
  · apply append sign
    split
    · exact numeric_positional layout (Decimal.numeric_digits _) _
    · exact numeric_scientific (Decimal.numeric_digits _) _

end Layout

theorem Number.numeric_text (layout : Layout) (n : Number) : Numeric (n.text layout) := by
  cases n with
  | integer n _ => exact Text.numeric_integer n
  | float x => exact Layout.numeric_text layout x

end SimulationScript
