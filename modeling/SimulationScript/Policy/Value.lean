import SimulationScript.Decoding.Decoder

/-! # Parameter values

The values that a reform gives to parameters: truth values, numbers and texts, which the script
shows without quotes.
-/

namespace SimulationScript

inductive ParameterValue where
  | flag (value : Bool)
  | number (value : Number)
  | text (value : String)
  deriving DecidableEq, Repr

namespace ParameterValue

/-- The value as the script shows it. -/
def display : ParameterValue → String
  | flag true => "True"
  | flag false => "False"
  | number n => String.ofList (n.text Number.scriptLayout)
  | text s => s

def toJson : ParameterValue → Json
  | flag b => .bool b
  | number n => .num n
  | text s => .str s

/-- The parameter value in a JSON value. Null, arrays and objects are none. -/
def ofJson : Json → Except DecodeError ParameterValue
  | .bool b => .ok (.flag b)
  | .num n => .ok (.number n)
  | .str s => .ok (.text s)
  | _ => .error (.noAlternative "ParameterValue")

/-- Reads a parameter value once its whole value has been seen. -/
def decoder : Decoder ParameterValue :=
  .buffered ofJson

end ParameterValue

end SimulationScript
