import Mathlib.Data.List.Basic
import SimulationScript.Json.Basic

/-! # Selections of members

What is left of an object when some of its members are dropped and the values of the others change,
said member by member. A selection by a test and a function is the only one that the test and the
function allow.
-/

namespace SimulationScript.Json

/-- The second list has, in the order of the first, the members that stay, each with what becomes of
    its value. -/
inductive Selected (stays : String → Json → Prop) (becomes : Json → Json → Prop) :
    List (String × Json) → List (String × Json) → Prop where
  | nil : Selected stays becomes [] []
  | drop {name : String} {value : Json} {rest kept : List (String × Json)} :
      ¬ stays name value → Selected stays becomes rest kept →
      Selected stays becomes ((name, value) :: rest) kept
  | keep {name : String} {value new : Json} {rest kept : List (String × Json)} :
      stays name value → becomes value new → Selected stays becomes rest kept →
      Selected stays becomes ((name, value) :: rest) ((name, new) :: kept)

/-- Two objects with related members, or one value of another kind twice. -/
inductive Within (related : List (String × Json) → List (String × Json) → Prop) :
    Json → Json → Prop where
  | object {members members' : List (String × Json)} : related members members' →
      Within related (.obj members) (.obj members')
  | other {value : Json} : ¬ value.isObject → Within related value value

/-- A value with its members changed, if it is an object. -/
def withMembers (f : List (String × Json) → List (String × Json)) : Json → Json
  | .obj members => .obj (f members)
  | other => other

section Functional

variable {stays : String → Json → Prop} {becomes : Json → Json → Prop}
  {p : String → Json → Bool} {f : Json → Json}

theorem selected_filter_map (tested : ∀ name value, stays name value ↔ p name value)
    (computed : ∀ value, becomes value (f value)) (all : List (String × Json)) :
    Selected stays becomes all
      ((all.filter fun (name, value) => p name value).map fun (name, value) => (name, f value)) := by
  induction all with
  | nil => exact .nil
  | cons entry rest ih =>
      obtain ⟨name, value⟩ := entry
      by_cases passes : p name value
      · simp only [List.filter_cons, passes, if_true, List.map_cons]
        exact .keep ((tested name value).mpr passes) (computed value) ih
      · simp only [List.filter_cons, passes, Bool.false_eq_true, if_false]
        exact .drop (mt (tested name value).mp passes) ih

theorem selected_iff (tested : ∀ name value, stays name value ↔ p name value)
    (computed : ∀ value new, becomes value new ↔ new = f value) {all kept : List (String × Json)} :
    Selected stays becomes all kept ↔
      kept =
        (all.filter fun (name, value) => p name value).map fun (name, value) => (name, f value) := by
  constructor
  · intro selected
    induction selected with
    | nil => rfl
    | @drop name value _ _ dropped _ ih =>
        have fails : ¬ p name value := mt (tested name value).mpr dropped
        simpa only [List.filter_cons, fails, Bool.false_eq_true, if_false] using ih
    | @keep name value _ _ _ stayed became _ ih =>
        obtain rfl := (computed value _).mp became
        have passes : p name value := (tested name value).mp stayed
        simp only [List.filter_cons, passes, if_true, List.map_cons, ih]
  · intro same
    subst same
    exact selected_filter_map tested (fun value => (computed value _).mpr rfl) all

theorem within_iff {related : List (String × Json) → List (String × Json) → Prop}
    {g : List (String × Json) → List (String × Json)}
    (computed : ∀ members members', related members members' ↔ members' = g members)
    {value new : Json} : Within related value new ↔ new = withMembers g value := by
  constructor
  · intro within
    cases within with
    | object same => rw [(computed _ _).mp same, withMembers]
    | other shapeless =>
        cases value with
        | obj members => simp [isObject] at shapeless
        | _ => rfl
  · intro same
    subst same
    cases value with
    | obj members => exact .object ((computed members _).mpr rfl)
    | _ => exact .other (by simp [isObject])

end Functional

end SimulationScript.Json
