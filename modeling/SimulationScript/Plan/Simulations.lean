import SimulationScript.Plan.Basic
import SimulationScript.Household
import SimulationScript.Literal

/-! # What a script runs

The tail of a script: the simulation of one household, or the comparison of two simulations of the
population.
-/

namespace SimulationScript.Plan

/-- The variable that is swept, when earnings vary. -/
def sweptVariable (plan : Plan) : Option String :=
  if plan.request.earningVariation then some plan.config.earningAxis.variableName else none

/-- A normalised household as the script embeds it: pruned, and with its axis when earnings
    vary. -/
def situationOf (plan : Plan) (groups : List (String × Json)) : Json :=
  let pruned := Household.prune plan.year plan.sweptVariable groups
  .obj (if plan.request.earningVariation then
    Household.withAxis plan.config.earningAxis pruned else pruned)

/-- The household that the script embeds. -/
def situation (plan : Plan) (normaliser : Normaliser) : Except ScriptError Json := do
  let some household := plan.request.household | throw .householdMissing
  match ← normaliser.normalise household plan.request.info true with
  | .obj groups => return plan.situationOf groups
  | _ => throw (.invalidHousehold "expected an object of entity groups")

/-- The simulation of a household given as a value. -/
def simulationLines (plan : Plan) (situation : Json) : List String :=
  ["", "", "situation = " ++ Literal.ofJson situation, "", "simulation = Simulation("] ++
    (if plan.hasReform then ["    reform=reform,"] else []) ++
    ["    situation=situation,", ")", "",
      "output = simulation.calculate(\"" ++ plan.config.outputVariable ++ "\", " ++
        plan.year.text ++ ")",
      "print(output)"]

/-- The simulation of the household, in household scope. -/
def householdSimulation (plan : Plan) (normaliser : Normaliser) :
    Except ScriptError (List String) :=
  match plan.request.scope with
  | .policy => .ok []
  | .household => do
    let situation ← plan.situation normaliser
    return plan.simulationLines situation

/-- The argument of the baseline simulation: its reform in US regions, when there is a reform. -/
def baselineArgument (plan : Plan) : String :=
  if plan.isUsRegion && plan.hasReform then "reform=baseline_reform" else ""

/-- One result for every person, computed by a named simulation. -/
def personResult (plan : Plan) (simulation : String) : List String :=
  [simulation ++ "_person = " ++ simulation ++ ".calc(\"" ++ plan.config.outputVariable ++ "\",",
    "    period=" ++ plan.year.text ++ ", map_to=\"person\")"]

/-- The comparison of the population with and without the reform, in policy scope. -/
def comparison (plan : Plan) : List String :=
  match plan.request.scope with
  | .household => []
  | .policy =>
    ["baseline = Microsimulation(" ++ plan.baselineArgument ++ ")",
      "reformed = Microsimulation(reform=reform)"] ++
      plan.personResult "baseline" ++ plan.personResult "reformed" ++
      ["difference_person = reformed_person - baseline_person"]

end SimulationScript.Plan
