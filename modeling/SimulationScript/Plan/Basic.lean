import SimulationScript.Config
import SimulationScript.Request

/-! # Plans

A plan is a request together with the configuration it is carried out under. The parts of a script
are all made from a plan.
-/

namespace SimulationScript

/-- A request under a configuration. -/
structure Plan where
  request : Request
  config : Config
  deriving Repr

namespace Plan

/-- The year of the simulation: the requested one, or else the configured default. -/
def year (plan : Plan) : Year :=
  Year.resolve plan.request.year plan.config.defaultYear

/-- Whether the region of the request is a configured US region. -/
def isUsRegion (plan : Plan) : Bool :=
  plan.config.isUsRegion plan.request.region

def reform (plan : Plan) : Reform :=
  plan.request.policy.reform

def hasReform (plan : Plan) : Bool :=
  !plan.reform.isEmpty

/-- Whether the script has to switch to reported state income tax: population runs of US
    regions. -/
def reportsStateTax (plan : Plan) : Bool :=
  match plan.request.scope with
  | .policy => plan.isUsRegion
  | .household => false

end Plan

end SimulationScript
