import SimulationScript.ScriptError

/-! # Intervals

An interval key holds two endpoints with a point between them.
-/

namespace SimulationScript

/-- Two endpoints as written. -/
structure Interval where
  start : String
  stop : String
  deriving DecidableEq, Repr

namespace Interval

/-- The parts of a text before and after its first point. -/
def splitPoint? (cs : List Char) : Option (List Char × List Char) :=
  match cs.dropWhile (· != '.') with
  | _ :: rest => some (cs.takeWhile (· != '.'), rest)
  | [] => none

/-- The endpoints in an interval key: the parts around its first point, neither of them empty. -/
def ofKey (key : String) : Except ScriptError Interval :=
  match splitPoint? key.toList with
  | some (start, stop) =>
    if start.isEmpty || stop.isEmpty then .error (.malformedInterval key)
    else .ok ⟨String.ofList start, String.ofList stop⟩
  | none => .error (.malformedInterval key)

end Interval

end SimulationScript
