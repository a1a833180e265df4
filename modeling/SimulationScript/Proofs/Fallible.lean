import Mathlib.Data.List.Forall2

/-! # Computations that may fail

When a sequence of computations succeeds, and which of them decides the error when it does not.
-/

namespace SimulationScript.Fallible

variable {ε α β : Type}

@[simp] theorem isOk_ok (a : α) : (Except.ok a : Except ε α).isOk = true := rfl

@[simp] theorem isOk_error (e : ε) : (Except.error e : Except ε α).isOk = false := rfl

theorem isOk_iff {x : Except ε α} : x.isOk ↔ ∃ a, x = .ok a := by
  cases x <;> simp

theorem bind_eq_ok {x : Except ε α} {f : α → Except ε β} {b : β} :
    x >>= f = .ok b ↔ ∃ a, x = .ok a ∧ f a = .ok b := by
  cases x <;> simp [bind, Except.bind]

theorem map_eq_ok {x : Except ε α} {f : α → β} {b : β} :
    x.map f = .ok b ↔ ∃ a, x = .ok a ∧ f a = b := by
  cases x <;> simp [Except.map]

theorem isOk_bind {x : Except ε α} {f : α → Except ε β} :
    (x >>= f).isOk ↔ ∃ a, x = .ok a ∧ (f a).isOk := by
  cases x <;> simp [bind, Except.bind]

/-! ## Forgetting the error -/

theorem toOption_eq_some {x : Except ε α} {a : α} : x.toOption = some a ↔ x = .ok a := by
  cases x <;> simp [Except.toOption]

theorem toOption_eq_none {x : Except ε α} : x.toOption = none ↔ ∃ e, x = .error e := by
  cases x <;> simp [Except.toOption]

@[simp] theorem toOption_ok (a : α) : (Except.ok a : Except ε α).toOption = some a := rfl

@[simp] theorem toOption_error (e : ε) : (Except.error e : Except ε α).toOption = none := rfl

theorem toOption_bind {x : Except ε α} {f : α → Except ε β} :
    (x >>= f).toOption = x.toOption.bind fun a => (f a).toOption := by
  cases x <;> rfl

theorem toOption_map {x : Except ε α} {f : α → β} : (x.map f).toOption = x.toOption.map f := by
  cases x <;> rfl

/-! ## Traversals -/

/-- A traversal succeeds with the results of its items, in order. -/
theorem mapM_eq_ok {f : α → Except ε β} {xs : List α} {ys : List β} :
    xs.mapM f = .ok ys ↔ List.Forall₂ (fun x y => f x = .ok y) xs ys := by
  induction xs generalizing ys with
  | nil => cases ys <;> simp [pure, Except.pure]
  | cons x xs ih =>
      simp only [List.mapM_cons, bind_eq_ok, List.forall₂_cons_left_iff, ih]
      constructor
      · intro results
        obtain ⟨y, hy, rest, hrest, done⟩ := results
        cases done
        exact ⟨y, rest, hy, hrest, rfl⟩
      · intro results
        obtain ⟨y, rest, hy, hrest, rfl⟩ := results
        exact ⟨y, hy, rest, hrest, rfl⟩

/-- An item of a list has a partner in a list that is related to it item by item. -/
theorem exists_partner {r : α → β → Prop} {xs : List α} {ys : List β} (h : List.Forall₂ r xs ys)
    {x : α} (member : x ∈ xs) : ∃ y ∈ ys, r x y := by
  induction h with
  | nil => cases member
  | cons related _ ih =>
      rcases List.mem_cons.mp member with rfl | later
      · exact ⟨_, List.mem_cons_self, related⟩
      · obtain ⟨y, hy, related⟩ := ih later
        exact ⟨y, List.mem_cons_of_mem _ hy, related⟩

theorem exists_of_mem_mapM {f : α → Except ε β} {xs : List α} {ys : List β} (h : xs.mapM f = .ok ys)
    {y : β} (member : y ∈ ys) : ∃ x ∈ xs, f x = .ok y :=
  exists_partner (mapM_eq_ok.mp h).flip member

/-- A traversal fails with the error of its first item that fails. -/
theorem mapM_eq_error {f : α → Except ε β} {xs : List α} {e : ε} :
    xs.mapM f = .error e ↔
      ∃ front x back, xs = front ++ x :: back ∧ (∀ y ∈ front, (f y).isOk) ∧ f x = .error e := by
  induction xs with
  | nil => simp [pure, Except.pure]
  | cons x xs ih =>
      have headFails : x :: xs = [] ++ x :: xs := rfl
      cases hx : f x with
      | error cause =>
          simp only [List.mapM_cons, hx, bind, Except.bind, Except.error.injEq]
          constructor
          · intro same
            subst same
            exact ⟨[], x, xs, headFails, by simp, hx⟩
          · intro failure
            obtain ⟨front, y, back, split, passed, hy⟩ := failure
            cases front with
            | nil => cases split; simpa [hx] using hy
            | cons z front =>
                cases split
                simpa [hx] using passed x (by simp)
      | ok a =>
          have onward : (x :: xs).mapM f = .error e ↔ xs.mapM f = .error e := by
            cases h : xs.mapM f <;> simp [List.mapM_cons, hx, h, bind, Except.bind, pure, Except.pure]
          rw [onward, ih]
          constructor
          · intro failure
            obtain ⟨front, y, back, rfl, passed, hy⟩ := failure
            refine ⟨x :: front, y, back, rfl, ?_, hy⟩
            simpa [hx] using passed
          · intro failure
            obtain ⟨front, y, back, split, passed, hy⟩ := failure
            cases front with
            | nil => cases split; simp [hx] at hy
            | cons z front =>
                cases split
                exact ⟨front, y, back, rfl, fun z hz => passed z (by simp [hz]), hy⟩

theorem isOk_mapM {f : α → Except ε β} {xs : List α} :
    (xs.mapM f).isOk ↔ ∀ x ∈ xs, (f x).isOk := by
  induction xs with
  | nil => exact iff_of_true rfl (by simp)
  | cons x xs ih =>
      rw [List.mapM_cons, isOk_bind, List.forall_mem_cons, ← ih, isOk_iff (x := f x)]
      constructor
      · intro parts
        obtain ⟨a, hx, rest⟩ := parts
        obtain ⟨as, has, _⟩ := isOk_bind.mp rest
        exact ⟨⟨a, hx⟩, isOk_iff.mpr ⟨as, has⟩⟩
      · intro parts
        obtain ⟨⟨a, hx⟩, rest⟩ := parts
        obtain ⟨as, has⟩ := isOk_iff.mp rest
        exact ⟨a, hx, isOk_bind.mpr ⟨as, has, rfl⟩⟩

end SimulationScript.Fallible
