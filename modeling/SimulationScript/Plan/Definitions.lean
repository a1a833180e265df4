import SimulationScript.Plan.Basic
import SimulationScript.Policy.Span

/-! # What a script imports and defines

The head of a script: its imports, the baseline that uses reported state income tax, and the
reform of the request. Endpoints of intervals go into the script as they were written.
-/

namespace SimulationScript.Plan

def reformImport : String :=
  "from policyengine_core.reforms import Reform"

def instantImport : String :=
  "from policyengine_core.periods import instant"

/-- The imports: the simulation class of the scope and, with a reform, what reforms need. -/
def imports (plan : Plan) : List String :=
  ("from " ++ plan.request.info.package ++ " import " ++ plan.request.scope.simulationClass) ::
    if plan.hasReform then [reformImport, instantImport] else []

/-- The statement that sets a parameter between two instants. -/
def updateBlock (parameter start stop value : String) : List String :=
  ["    parameters." ++ parameter ++ ".update(",
    "        start=instant(\"" ++ start ++ "\"), stop=instant(\"" ++ stop ++ "\"),",
    "        value=" ++ value ++ ")"]

/-- The statement that switches to reported state income tax over a span. -/
def taxBlock (span : Span) : List String :=
  updateBlock "simulation.reported_state_income_tax" span.earliestStart span.latestEnd "True"

/-- The end of a function that changes parameters, and a class that applies the function. -/
def reformClass (name function : String) : List String :=
  ["    return parameters", "", "", "class " ++ name ++ "(Reform):", "    def apply(self):",
    "        self.modify_parameters(" ++ function ++ ")"]

/-- The definition of the baseline reform that is active over a span. -/
def baselineDefinition (span : Span) : List String :=
  ["", "", "\"\"\"", "In US nationwide simulations,", "use reported state income tax liabilities",
    "\"\"\"", "def modify_baseline(parameters):"] ++
    taxBlock span ++ reformClass "baseline_reform" "modify_baseline"

/-- The baseline reform of population runs of US regions whose reform has updates. -/
def baseline (plan : Plan) : Except ScriptError (List String) :=
  if plan.reportsStateTax then do
    match ← plan.request.policy.span with
    | some span => return baselineDefinition span
    | none => return []
  else .ok []

/-- The statement of one update. Its endpoints are not read as dates here. -/
def updateLines (update : Update) : Except ScriptError (List String) := do
  let interval ← Interval.ofKey update.interval
  return updateBlock update.parameter interval.start interval.stop update.value.display

def allUpdateLines (updates : List Update) : Except ScriptError (List String) := do
  let blocks ← updates.mapM updateLines
  return blocks.flatten

/-- The switch to reported state income tax inside the reform, where there is one. -/
def injectedTaxBlock (plan : Plan) : Except ScriptError (List String) :=
  if plan.reportsStateTax then do
    match ← plan.request.policy.span with
    | some span => return taxBlock span
    | none => return []
  else .ok []

/-- The reform of the request, if it names any parameter. -/
def reformDefinition (plan : Plan) : Except ScriptError (List String) :=
  if plan.hasReform then do
    let tax ← plan.injectedTaxBlock
    let updates ← allUpdateLines plan.reform.updates
    return ["", "", "def modify_parameters(parameters):"] ++ tax ++ updates ++
      reformClass "reform" "modify_parameters"
  else .ok []

end SimulationScript.Plan
