import SimulationScript.Plan.Definitions
import SimulationScript.Plan.Simulations
import SimulationScript.Script

/-! # Generating scripts

A script is the imports, the definitions and the simulations of a plan in this order. The first
part that fails decides the error.
-/

namespace SimulationScript

/-- The script of a plan. -/
def Plan.script (plan : Plan) (normaliser : Normaliser) : Except ScriptError Script := do
  let baseline ← plan.baseline
  let reform ← plan.reformDefinition
  let simulation ← plan.householdSimulation normaliser
  return ⟨plan.imports ++ baseline ++ reform ++ simulation ++ plan.comparison⟩

/-- The script that reproduces a request. -/
def generate (normaliser : Normaliser) (config : Config) (request : Request) :
    Except ScriptError Script :=
  Plan.script ⟨request, config⟩ normaliser

end SimulationScript
