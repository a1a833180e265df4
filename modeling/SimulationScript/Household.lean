import SimulationScript.Config
import SimulationScript.Metadata
import SimulationScript.ScriptError

/-! # Households

A household maps entity groups to instances, instances to variables and variables to values by
year. Before a script embeds it, variables that are computed, unset or swept are taken out. Parts
of another shape are left alone.
-/

namespace SimulationScript

namespace Household

/-- The entry of an instance that lists its members and is no variable. -/
def membersName : String := "members"

/-- The entry of a household that holds its axes. -/
def axesName : String := "axes"

/-- An instance with those of its variables that are kept. The list of members always stays. -/
def retainVariables (keep : String → Json → Bool) : Json → Json
  | .obj values =>
    .obj (values.filter fun (name, value) => name == membersName || keep name value)
  | other => other

/-- A group with `retainVariables` done to each instance. -/
def retainInGroup (keep : String → Json → Bool) : Json → Json
  | .obj instances =>
    .obj (instances.map fun (name, value) => (name, retainVariables keep value))
  | other => other

/-- A household with `retainVariables` done to each instance of each group. -/
def retain (keep : String → Json → Bool) (groups : List (String × Json)) :
    List (String × Json) :=
  groups.map fun (name, group) => (name, retainInGroup keep group)

/-- Whether a variable is explicitly without a value in a year. -/
def isUnset (year : Year) (value : Json) : Bool :=
  match value.get? year.text with
  | some entry => entry.isNull
  | none => false

/-- Takes out the variables that are unset in a year and the variable that is swept, if any. -/
def prune (year : Year) (swept : Option String) (groups : List (String × Json)) :
    List (String × Json) :=
  retain (fun name value => !isUnset year value && swept != some name) groups

/-- Whether a group has a place in the script: one of the package's groups with an instance, or
    an entry that is no group at all. -/
def isKnownGroup (info : Metadata) (name : String) : Json → Bool
  | .obj instances => !instances.isEmpty && info.isEntityGroup name
  | _ => true

/-- Takes out what the package computes and the groups that it does not know or that are empty. -/
def removeComputed (info : Metadata) (groups : List (String × Json)) : List (String × Json) :=
  (retain (fun name _ => !info.isComputed name) groups).filter fun (name, group) =>
    isKnownGroup info name group

/-- The entry that sweeps one variable over a range. -/
def axes (axis : EarningAxis) : Json :=
  .arr [.arr [.obj [
    ("name", .str axis.variableName),
    ("count", .num (.ofUInt32 axis.count)),
    ("min", .num (.ofInt64 axis.min)),
    ("max", .num (.ofInt64 axis.max))]]]

/-- A household with the given axis as its only one. -/
def withAxis (axis : EarningAxis) (groups : List (String × Json)) : List (String × Json) :=
  Entries.set axesName (axes axis) groups

end Household

/-- A way to bring a household into the form that scripts embed. -/
structure Normaliser where
  name : String
  /-- The household in normal form; the flag asks to take out what the package computes. -/
  normalise : Json → Metadata → Bool → Except ScriptError Json

namespace Normaliser

/-- Leaves every household as it is. -/
def passthrough : Normaliser where
  name := "passthrough"
  normalise household _ _ := .ok household

/-- Goes by the metadata of the package. -/
def schema : Normaliser where
  name := "schema"
  normalise
    | .obj groups, info, removeComputed =>
      .ok (.obj (if removeComputed then Household.removeComputed info groups else groups))
    | _, _, _ => .error (.normalisation "household must be an object of entity groups")

end Normaliser

end SimulationScript
