import SimulationScript.Calendar.Endpoint
import SimulationScript.Policy.Interval
import SimulationScript.Policy.Reform

/-! # The span of a policy

A policy is active from the earliest start to the latest end of its updates by the calendar. Both
endpoints are kept as they were written.
-/

namespace SimulationScript

/-- The day that an endpoint names. -/
def endpointDate (endpoint : String) : Except ScriptError Date :=
  match Date.parse? endpoint with
  | some date => .ok date
  | none => .error (.invalidDate endpoint)

/-- The first start and the last end over which a reform is active, as written. -/
structure Span where
  earliestStart : String
  latestEnd : String
  deriving DecidableEq, Repr

namespace Span

structure Endpoint where
  date : Date
  written : String
  deriving DecidableEq, Repr

/-- The earlier of two endpoints, the first of two on the same day. -/
def earlier (current : Option Endpoint) (next : Endpoint) : Endpoint :=
  match current with
  | some endpoint => if next.date < endpoint.date then next else endpoint
  | none => next

/-- The later of two endpoints, the first of two on the same day. -/
def later (current : Option Endpoint) (next : Endpoint) : Endpoint :=
  match current with
  | some endpoint => if endpoint.date < next.date then next else endpoint
  | none => next

/-- The start and the end of an interval key with the days they name. -/
def endpoints (key : String) : Except ScriptError (Endpoint × Endpoint) := do
  let interval ← Interval.ofKey key
  let start ← endpointDate interval.start
  let stop ← endpointDate interval.stop
  return (⟨start, interval.start⟩, ⟨stop, interval.stop⟩)

/-- The extremes seen so far, with one more interval key taken in. -/
def extend (seen : Option (Endpoint × Endpoint)) (key : String) :
    Except ScriptError (Option (Endpoint × Endpoint)) := do
  let (start, stop) ← endpoints key
  return some (earlier (seen.map (·.1)) start, later (seen.map (·.2)) stop)

/-- The span of a list of interval keys, or none when there are no keys. -/
def ofKeys (keys : List String) : Except ScriptError (Option Span) := do
  let extremes ← keys.foldlM extend none
  return extremes.map fun (start, stop) => ⟨start.written, stop.written⟩

end Span

/-- The span of all updates of a policy, or none when it has no updates. -/
def Policy.span (policy : Policy) : Except ScriptError (Option Span) :=
  Span.ofKeys (policy.reform.updates.map (·.interval))

end SimulationScript
