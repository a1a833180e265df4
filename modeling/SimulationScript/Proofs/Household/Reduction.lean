import SimulationScript.Proofs.Household.Retention
import SimulationScript.Proofs.Plan.Failure
import SimulationScript.Proofs.Plan.Situation

/-! # Reductions in any order

A household is reduced by normalising it and by pruning it. No reduction changes what another one
looks at, so a sequence of them drops what any of them drops, and neither their order nor how often
one comes up matters.
-/

namespace SimulationScript.Household

/-- A step that drops parts of a household. -/
inductive Reduction where
  /-- Takes out what a package computes and the groups that it does not know. -/
  | normalise (info : Metadata)
  /-- Takes out what is unset in a year, and the swept variable if there is one. -/
  | prune (year : Year) (swept : Option String)

namespace Reduction

variable {keep : String → Json → Bool}

def apply (groups : List (String × Json)) : Reduction → Except ScriptError (List (String × Json))
  | normalise info => Normaliser.schema.groups (.obj groups) info
  | prune year swept => .ok (Household.prune year swept groups)

/-- Carries out reductions one after the other. The first one that fails decides the error. -/
def run (reductions : List Reduction) (groups : List (String × Json)) :
    Except ScriptError (List (String × Json)) :=
  reductions.foldlM apply groups

/-! ## One reduction -/

/-- Whether a variable stays. -/
def keeps : Reduction → String → Json → Bool
  | normalise info => fun name _ => !info.isComputed name
  | prune year swept => fun name value => !isUnset year value && swept != some name

/-- Whether a group stays. -/
def knows : Reduction → String → Json → Bool
  | normalise info => isKnownGroup info
  | prune _ _ => fun _ _ => true

theorem knows_retainInGroup (reduction : Reduction) (name : String) (group : Json) :
    reduction.knows name (retainInGroup keep group) = reduction.knows name group := by
  cases reduction with
  | normalise info => exact isKnownGroup_retainInGroup info name group
  | prune year swept => rfl

theorem apply_eq (reduction : Reduction) (groups : List (String × Json)) :
    reduction.apply groups =
      .ok (retain reduction.keeps
        (groups.filter fun (name, group) => reduction.knows name group)) := by
  cases reduction with
  | normalise info => exact congrArg Except.ok (removeComputed_eq info groups)
  | prune year swept =>
      simp only [apply, knows, List.filter_true]
      rfl

/-! ## Sequences of reductions -/

/-- What is left of a household when everything is dropped that any of the reductions drops. -/
def leftBy (reductions : List Reduction) (groups : List (String × Json)) : List (String × Json) :=
  retain (fun name value => reductions.all (·.keeps name value))
    (groups.filter fun (name, group) => reductions.all (·.knows name group))

theorem retain_true (groups : List (String × Json)) : retain (fun _ _ => true) groups = groups := by
  have instanceKept (value : Json) : retainVariables (fun _ _ => true) value = value := by
    cases value <;> simp [retainVariables]
  have groupKept (group : Json) : retainInGroup (fun _ _ => true) group = group := by
    cases group <;> simp [retainInGroup, instanceKept]
  simp [retain, groupKept]

theorem leftBy_nil (groups : List (String × Json)) : leftBy [] groups = groups := by
  simp only [leftBy, List.all_nil, List.filter_true, retain_true]

/-- A reduction sees of a household only what earlier reductions have left alone. -/
theorem leftBy_cons (reduction : Reduction) (others : List Reduction)
    (groups : List (String × Json)) :
    leftBy (reduction :: others) groups =
      leftBy others
        (retain reduction.keeps (groups.filter fun (name, group) => reduction.knows name group)) := by
  have blind (known : List (String × Json)) :
      (retain reduction.keeps known).filter
          (fun (name, group) => others.all (·.knows name group)) =
        retain reduction.keeps
          (known.filter fun (name, group) => others.all (·.knows name group)) := by
    simp only [retain, List.filter_map, Function.comp_def, knows_retainInGroup]
  rw [leftBy, leftBy, blind, retain_retain, List.filter_filter]
  simp only [List.all_cons, Bool.and_comm (reduction.knows _ _)]
  rfl

theorem run_eq_leftBy (reductions : List Reduction) (groups : List (String × Json)) :
    run reductions groups = .ok (leftBy reductions groups) := by
  induction reductions generalizing groups with
  | nil => rw [leftBy_nil]; rfl
  | cons reduction others ih =>
      rw [run, List.foldlM_cons, apply_eq, leftBy_cons]
      exact ih _

theorem leftBy_congr {reductions reductions' : List Reduction}
    (same : ∀ reduction, reduction ∈ reductions ↔ reduction ∈ reductions') :
    leftBy reductions = leftBy reductions' := by
  have allKept (test : Reduction → Bool) : reductions.all test = reductions'.all test := by
    rw [Bool.eq_iff_iff, List.all_eq_true, List.all_eq_true]
    simp only [same]
  funext groups
  simp only [leftBy, allKept]

/-- Two sequences of the same reductions, in any order and with any repetitions, both succeed on every
    household and leave the same of it. -/
theorem reductions_act_as_a_set {reductions reductions' : List Reduction}
    (same : ∀ reduction, reduction ∈ reductions ↔ reduction ∈ reductions')
    (groups : List (String × Json)) :
    ∃ left, run reductions groups = .ok left ∧ run reductions' groups = .ok left :=
  ⟨leftBy reductions groups, run_eq_leftBy reductions groups,
    leftBy_congr same ▸ run_eq_leftBy reductions' groups⟩

/-- Reductions of both kinds, two of them prunings for different years. -/
def threeReductions : List Reduction :=
  [.prune ⟨2025⟩ none, .normalise Plan.smallPackage, .prune .standard (some "employment_income")]

/-- The same reductions in another order, some of them more than once. -/
def shuffledReductions : List Reduction :=
  [.normalise Plan.smallPackage, .prune .standard (some "employment_income"),
    .normalise Plan.smallPackage, .prune ⟨2025⟩ none, .prune .standard (some "employment_income")]

def reducedGroups : List (String × Json) :=
  [("people", .obj [
      ("you", .obj [("age", .obj [("2024", .str "40")]), ("members", .obj [("2024", .null)])]),
      ("none", .null)]),
    ("axes", .str "old")]

theorem shuffled_reductions_leave_the_same :
    (∀ reduction, reduction ∈ threeReductions ↔ reduction ∈ shuffledReductions) ∧
      run threeReductions Plan.mixedGroups = .ok reducedGroups ∧
      run shuffledReductions Plan.mixedGroups = .ok reducedGroups := by
  have same (reduction : Reduction) :
      reduction ∈ threeReductions ↔ reduction ∈ shuffledReductions := by
    simp only [threeReductions, shuffledReductions, List.mem_cons, List.not_mem_nil, or_false]
    tauto
  obtain ⟨left, first, second⟩ := reductions_act_as_a_set same Plan.mixedGroups
  have reduced : run threeReductions Plan.mixedGroups = .ok reducedGroups := rfl
  obtain rfl : reducedGroups = left := Except.ok.inj (reduced.symm.trans first)
  exact ⟨same, reduced, second⟩

end Reduction

end SimulationScript.Household
