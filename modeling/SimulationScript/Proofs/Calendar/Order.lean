import Mathlib.Order.RelClasses
import SimulationScript.Calendar.Date

/-! # The order of calendar days

Days are strictly ordered by year, month and day, and two days of which neither comes before the
other are one day.
-/

namespace SimulationScript.Date

theorem lt_iff {a b : Date} :
    a < b ↔ a.year < b.year ∨
      a.year = b.year ∧ (a.month < b.month ∨ a.month = b.month ∧ a.day < b.day) :=
  Iff.rfl

instance : IsStrictTotalOrder Date (· < ·) where
  irrefl a h := by
    rw [lt_iff] at h
    omega
  trans a b c hab hbc := by
    rw [lt_iff] at hab hbc ⊢
    omega
  trichotomous a b hab hba := by
    rw [lt_iff] at hab hba
    have year : a.year = b.year := by omega
    have month : a.month = b.month := by omega
    have day : a.day = b.day := by omega
    cases a
    cases b
    cases year
    cases month
    cases day
    rfl

end SimulationScript.Date
