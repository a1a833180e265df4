/-! # Errors of script generation

Why no script can be made for a request, with the wording of each cause.
-/

namespace SimulationScript

/-- Why a script cannot be generated. -/
inductive ScriptError where
  /-- An interval key does not consist of two endpoints with a point between them. -/
  | malformedInterval (key : String)
  | invalidDate (endpoint : String)
  /-- A household simulation was asked for without a household. -/
  | householdMissing
  /-- The household is no map of entity groups. -/
  | invalidHousehold (reason : String)
  | normalisation (reason : String)
  /-- The household cannot be written down as a literal. -/
  | serialization (reason : String)
  deriving DecidableEq, Repr

namespace ScriptError

def message : ScriptError → String
  | malformedInterval key => "malformed date interval: " ++ key
  | invalidDate endpoint => "invalid date: " ++ endpoint
  | householdMissing => "household scope requires household input"
  | invalidHousehold reason => "invalid household: " ++ reason
  | normalisation reason => "household normalisation failed: " ++ reason
  | serialization reason => "serialization failed: " ++ reason

end ScriptError

end SimulationScript
