import SimulationScript.Proofs.Plan.Instants
import SimulationScript.Proofs.Text.Mark

/-! # Reported state income tax on both sides

The baseline and the reform switch to reported state income tax, each by a test of its own. The tests
agree wherever a script is made, so that both switch over one span or neither does.
-/

namespace SimulationScript.Plan

variable {plan : Plan} {lines : List String}

/-! ## Bodies of functions -/

end SimulationScript.Plan
