import SimulationScript.Policy.Span
import SimulationScript.Proofs.Calendar.Order

/-! # The first endpoint on an extreme day

The pass over the updates keeps one start and one end. The invariant of each is that it is on an
extreme day of all endpoints seen, and the first of them on that day.
-/

namespace SimulationScript.Span

section Choice

variable (before : Date → Date → Prop)

/-- An endpoint on a day that no day in the list comes before, and the first in the list on that
    day. -/
def FirstExtreme (chosen : Endpoint) (all : List Endpoint) : Prop :=
  ∃ front back, all = front ++ chosen :: back ∧
    (∀ endpoint ∈ all, ¬ before endpoint.date chosen.date) ∧
    ∀ endpoint ∈ front, endpoint.date ≠ chosen.date

/-- What is known of the endpoint kept, if any, after a list of endpoints. -/
def Kept (kept : Option Endpoint) (seen : List Endpoint) : Prop :=
  match kept with
  | none => seen = []
  | some chosen => FirstExtreme before chosen seen

/-- The next endpoint when its day comes before the one kept, and else the one kept. -/
def prefer [DecidableRel before] (kept : Option Endpoint) (next : Endpoint) : Endpoint :=
  match kept with
  | some endpoint => if before next.date endpoint.date then next else endpoint
  | none => next

variable {before} [IsStrictTotalOrder Date before]

theorem Kept.prefer [DecidableRel before] {kept : Option Endpoint} {seen : List Endpoint}
    (h : Kept before kept seen) (next : Endpoint) :
    FirstExtreme before (prefer before kept next) (seen ++ [next]) := by
  have notBeforeSelf : ¬ before next.date next.date := irrefl_of before _
  cases kept with
  | none =>
      cases h
      exact ⟨[], [], rfl, by simpa [Span.prefer] using notBeforeSelf, by simp⟩
  | some chosen =>
      obtain ⟨front, back, split, extreme, first⟩ := h
      by_cases replaced : before next.date chosen.date
      · -- every endpoint seen so far lies behind the old extreme, so it lies behind the new one
        have behind : ∀ endpoint ∈ seen, ¬ before endpoint.date next.date :=
          fun endpoint he hbefore => extreme endpoint he (trans_of before hbefore replaced)
        simp only [Span.prefer, replaced, if_true]
        refine ⟨seen, [], rfl, ?_, ?_⟩
        · intro endpoint he
          rcases List.mem_append.mp he with he | he
          · exact behind endpoint he
          · simpa only [List.mem_singleton.mp he] using notBeforeSelf
        · intro endpoint he same
          exact extreme endpoint he (same ▸ replaced)
      · simp only [Span.prefer, replaced, if_false]
        refine ⟨front, back ++ [next], by simp [split], ?_, first⟩
        intro endpoint he
        rcases List.mem_append.mp he with he | he
        · exact extreme endpoint he
        · simpa only [List.mem_singleton.mp he] using replaced

/-- Of two endpoints on extreme days of one set of endpoints, both are on the same day. -/
theorem FirstExtreme.same_day {a b : Endpoint} {as bs : List Endpoint} (ha : FirstExtreme before a as)
    (hb : FirstExtreme before b bs) (same : as.Perm bs) : a.date = b.date := by
  obtain ⟨_, _, rfl, leastA, _⟩ := ha
  obtain ⟨_, _, rfl, leastB, _⟩ := hb
  have notBefore : ¬ before a.date b.date := leastB a (same.subset (by simp))
  have notAfter : ¬ before b.date a.date := leastA b (same.symm.subset (by simp))
  exact Std.Trichotomous.trichotomous (r := before) _ _ notBefore notAfter

/-- A list has only one first endpoint on an extreme day. -/
theorem FirstExtreme.unique {a b : Endpoint} {all : List Endpoint} (ha : FirstExtreme before a all)
    (hb : FirstExtreme before b all) : a = b := by
  have same := ha.same_day hb (.refl _)
  obtain ⟨frontA, backA, splitA, _, firstA⟩ := ha
  obtain ⟨frontB, backB, splitB, _, firstB⟩ := hb
  have splits := splitA.symm.trans splitB
  rcases List.append_eq_append_iff.mp splits with ⟨more, hb, ha⟩ | ⟨more, ha, hb⟩
  · cases more with
    | nil => exact (List.cons.inj ha).1
    | cons endpoint more =>
        obtain rfl := (List.cons.inj ha).1
        exact absurd same (firstB _ (by simp [hb]))
  · cases more with
    | nil => exact (List.cons.inj hb).1.symm
    | cons endpoint more =>
        obtain rfl := (List.cons.inj hb).1
        exact absurd same.symm (firstA _ (by simp [ha]))

theorem Kept.unique {a b : Option Endpoint} {seen : List Endpoint} (ha : Kept before a seen)
    (hb : Kept before b seen) : a = b := by
  cases a with
  | none =>
      cases ha
      cases b with
      | none => rfl
      | some b => obtain ⟨front, back, split, _⟩ := hb; simp at split
  | some a =>
      cases b with
      | none => cases hb; obtain ⟨front, back, split, _⟩ := ha; simp at split
      | some b => exact congrArg some (FirstExtreme.unique ha hb)

end Choice

/-- One more pair of endpoints taken into the extremes. -/
def takeIn (kept : Option (Endpoint × Endpoint)) (ends : Endpoint × Endpoint) :
    Option (Endpoint × Endpoint) :=
  some (earlier (kept.map (·.1)) ends.1, later (kept.map (·.2)) ends.2)

/-- The pair kept after a list of pairs: the first start on the first day, and the first end on the
    last day. -/
structure Extremes (kept : Option (Endpoint × Endpoint)) (seen : List (Endpoint × Endpoint)) :
    Prop where
  start : Kept (· < ·) (kept.map (·.1)) (seen.map (·.1))
  stop : Kept (· > ·) (kept.map (·.2)) (seen.map (·.2))

instance : IsStrictTotalOrder Date (· > ·) :=
  inferInstanceAs (IsStrictTotalOrder Date (Function.swap (· < ·)))

theorem earlier_eq_prefer (kept : Option Endpoint) (next : Endpoint) :
    earlier kept next = prefer (· < ·) kept next := by
  cases kept <;> rfl

theorem later_eq_prefer (kept : Option Endpoint) (next : Endpoint) :
    later kept next = prefer (· > ·) kept next := by
  cases kept <;> rfl

theorem Extremes.takeIn {kept : Option (Endpoint × Endpoint)} {seen : List (Endpoint × Endpoint)}
    (h : Extremes kept seen) (ends : Endpoint × Endpoint) :
    Extremes (takeIn kept ends) (seen ++ [ends]) where
  start := by
    simpa only [Span.takeIn, Option.map_some, List.map_append, List.map_singleton, Kept,
      earlier_eq_prefer] using h.start.prefer ends.1
  stop := by
    simpa only [Span.takeIn, Option.map_some, List.map_append, List.map_singleton, Kept,
      later_eq_prefer] using h.stop.prefer ends.2

theorem Extremes.foldl {kept : Option (Endpoint × Endpoint)} {seen : List (Endpoint × Endpoint)}
    (h : Extremes kept seen) (rest : List (Endpoint × Endpoint)) :
    Extremes (rest.foldl Span.takeIn kept) (seen ++ rest) := by
  induction rest generalizing kept seen with
  | nil => simpa using h
  | cons ends rest ih => simpa using ih (h.takeIn ends)

/-- Taking in all pairs leaves the extremes of all of them. -/
theorem extremes_foldl (all : List (Endpoint × Endpoint)) :
    Extremes (all.foldl takeIn none) all :=
  (show Extremes none [] from ⟨rfl, rfl⟩).foldl all

theorem Extremes.unique {a b : Option (Endpoint × Endpoint)} {seen : List (Endpoint × Endpoint)}
    (ha : Extremes a seen) (hb : Extremes b seen) : a = b := by
  have start := ha.start.unique hb.start
  have stop := ha.stop.unique hb.stop
  cases a <;> cases b <;> simp_all [Prod.ext_iff]

theorem FirstExtreme.mem {before : Date → Date → Prop} {chosen : Endpoint} {all : List Endpoint}
    (h : FirstExtreme before chosen all) : chosen ∈ all := by
  obtain ⟨front, back, rfl, _⟩ := h
  simp

end SimulationScript.Span
