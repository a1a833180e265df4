import SimulationScript.Decoding.Decoder
import SimulationScript.Text.Blank

/-! # Simulation years

The year that a simulation is run for. Year zero stands for no year.
-/

namespace SimulationScript

structure Year where
  value : UInt32
  deriving DecidableEq, Repr

namespace Year

def standard : Year := ⟨2024⟩

instance : Inhabited Year := ⟨standard⟩

/-- The requested year, or the default when the request has none or zero. -/
def resolve (requested : Option Year) (default : Year) : Year :=
  match requested with
  | some year => if year.value = 0 then default else year
  | none => default

def text (year : Year) : String :=
  String.ofList (Text.numeral year.value.toNat)

def toJson (year : Year) : Json :=
  .num (.ofUInt32 year.value)

/-- The year that a text spells, blanks at its ends apart; a blank text is year zero. -/
def ofText? (cs : List Char) : Option Year :=
  let trimmed := Text.trim cs
  if trimmed.isEmpty then some ⟨0⟩
  else (Text.natural? trimmed).bind fun n => (natural32? n).map Year.mk

/-- The year in a JSON value: an integer of 32 bits or a text that spells one. -/
def ofJson : Json → Except DecodeError Year
  | .num (.integer n _) =>
    match natural32? n with
    | some word => .ok ⟨word⟩
    | none => .error (.noAlternative "Raw")
  | .str s =>
    match ofText? s.toList with
    | some year => .ok year
    | none => .error (.invalidYear s)
  | _ => .error (.noAlternative "Raw")

/-- Reads a year once its whole value has been seen. -/
def decoder : Decoder Year :=
  .buffered ofJson

end Year

end SimulationScript
