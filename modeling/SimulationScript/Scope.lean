import SimulationScript.Decoding.Decoder

/-! # Scopes

A simulation runs either for one household or for a whole population under a policy.
-/

namespace SimulationScript

/-- What a simulation is run over. -/
inductive Scope where
  /-- A single household. -/
  | household
  /-- The population. -/
  | policy
  deriving DecidableEq, Repr

namespace Scope

def name : Scope → String
  | household => "household"
  | policy => "policy"

/-- The class that runs simulations of this scope. -/
def simulationClass : Scope → String
  | household => "Simulation"
  | policy => "Microsimulation"

def toJson (scope : Scope) : Json :=
  .str scope.name

def ofName (name : String) : Except DecodeError Scope :=
  if name = household.name then .ok household
  else if name = policy.name then .ok policy
  else .error (.unknownChoice name [household.name, policy.name])

/-- The scope in a JSON value: its name, or an object with its name and null. -/
def ofJson : Json → Except DecodeError Scope
  | .str name => ofName name
  | .obj [(name, value)] => do
    let scope ← ofName name
    let _ ← Decoder.unit.ofJson value
    return scope
  | .obj _ => .error (.wrongValue .map "map with a single key")
  | other => .error (.wrongKind (.ofJson other) "string or map")

open Json

/-- Reads a scope off the front of a text. Here only a quote or a brace can begin one. -/
def ofText (depth : Nat) : TextReader Scope := fun cs =>
  match skipSpace cs with
  | [] => .error .truncated
  | c :: rest =>
    if c = '"' then do
      let (name, rest) ← readString rest
      Decoder.refused (ofName (String.ofList name)) rest
    else if c = '{' then
      match depth with
      | 0 => .error .malformed
      | depth + 1 => do
        let rest ← skipMark '"' rest
        let (name, rest) ← readString rest
        let (scope, rest) ← Decoder.refused (ofName (String.ofList name)) rest
        let rest ← skipMark ':' rest
        let (_, rest) ← Decoder.unit.ofText depth rest
        let rest ← skipMark '}' rest
        return (scope, rest)
    else .error .malformed

def decoder : Decoder Scope :=
  ⟨ofJson, ofText⟩

end Scope

end SimulationScript
