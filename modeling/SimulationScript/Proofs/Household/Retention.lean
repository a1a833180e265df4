import Mathlib.Data.List.Basic
import SimulationScript.Household

/-! # Taking variables out of a household

Each step that takes variables out of a household tests them one by one, so steps combine into one
step with both tests. None of them changes which groups are known, and so whether a group stays can
be asked before or after.
-/

namespace SimulationScript.Household

/-- Both tests on a variable. -/
def both (first second : String → Json → Bool) (name : String) (value : Json) : Bool :=
  first name value && second name value

variable {first second : String → Json → Bool}

theorem retainVariables_retainVariables (value : Json) :
    retainVariables second (retainVariables first value) =
      retainVariables (both first second) value := by
  cases value with
  | obj values =>
      simp only [retainVariables, List.filter_filter]
      congr 2
      funext entry
      cases entry.1 == membersName <;> simp [both, Bool.and_comm]
  | _ => rfl

theorem retainInGroup_retainInGroup (group : Json) :
    retainInGroup second (retainInGroup first group) = retainInGroup (both first second) group := by
  cases group with
  | obj instances =>
      simp only [retainInGroup, List.map_map, Function.comp_def, retainVariables_retainVariables]
  | _ => rfl

theorem retain_retain (groups : List (String × Json)) :
    retain second (retain first groups) = retain (both first second) groups := by
  simp only [retain, List.map_map, Function.comp_def, retainInGroup_retainInGroup]

theorem isKnownGroup_retainInGroup (info : Metadata) (name : String) (group : Json) :
    isKnownGroup info name (retainInGroup first group) = isKnownGroup info name group := by
  cases group with
  | obj instances => simp [retainInGroup, isKnownGroup]
  | _ => rfl

/-- The entries of a household that have a place in the script. -/
def knownGroups (info : Metadata) (groups : List (String × Json)) : List (String × Json) :=
  groups.filter fun (name, group) => isKnownGroup info name group

theorem knownGroups_retain (info : Metadata) (groups : List (String × Json)) :
    knownGroups info (retain first groups) = retain first (knownGroups info groups) := by
  simp only [knownGroups, retain, List.filter_map, Function.comp_def, isKnownGroup_retainInGroup]

theorem removeComputed_eq (info : Metadata) (groups : List (String × Json)) :
    removeComputed info groups =
      retain (fun name _ => !info.isComputed name) (knownGroups info groups) :=
  knownGroups_retain info groups

/-- The test of a variable for both steps that a household goes through. -/
def isKept (info : Metadata) (year : Year) (swept : Option String) : String → Json → Bool :=
  both (fun name _ => !info.isComputed name)
    fun name value => !isUnset year value && swept != some name

theorem prune_removeComputed (info : Metadata) (year : Year) (swept : Option String)
    (groups : List (String × Json)) :
    prune year swept (removeComputed info groups) =
      retain (isKept info year swept) (knownGroups info groups) := by
  rw [removeComputed_eq, prune, retain_retain, isKept]

end SimulationScript.Household
