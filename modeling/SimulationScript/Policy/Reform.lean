import SimulationScript.Policy.Value
import SimulationScript.Decoding.Record

/-! # Reforms

A reform gives parameters new values over intervals of time. Parameters and the intervals of each
keep the order in which they were first named, which is the order the script follows.
-/

namespace SimulationScript

/-- The values of one parameter by interval key. -/
abbrev Schedule := OrderedMap ParameterValue

/-- New values for parameters, by parameter and interval key. -/
structure Reform where
  data : OrderedMap Schedule
  deriving DecidableEq, Repr

/-- One parameter update of a reform. -/
structure Update where
  parameter : String
  interval : String
  value : ParameterValue
  deriving DecidableEq, Repr

namespace Reform

def empty : Reform := ⟨.empty⟩

instance : Inhabited Reform := ⟨empty⟩

/-- Whether the reform names no parameter. A parameter without intervals counts as named. -/
def isEmpty (reform : Reform) : Bool :=
  reform.data.isEmpty

def parameterCount (reform : Reform) : Nat :=
  reform.data.size

/-- Sets the value of a parameter over an interval. -/
def withUpdate (reform : Reform) (update : Update) : Reform :=
  let schedule := (reform.data.get? update.parameter).getD .empty
  ⟨reform.data.set update.parameter (schedule.set update.interval update.value)⟩

def scheduleUpdates (parameter : String) (schedule : Schedule) : List Update :=
  schedule.entries.map fun (interval, value) => ⟨parameter, interval, value⟩

/-- All updates, parameter by parameter. -/
def updates (reform : Reform) : List Update :=
  reform.data.entries.flatMap fun (parameter, schedule) => scheduleUpdates parameter schedule

def scheduleJson (schedule : Schedule) : Json :=
  .obj (schedule.entries.map fun (interval, value) => (interval, value.toJson))

def toJson (reform : Reform) : Json :=
  .obj [("data",
    .obj (reform.data.entries.map fun (parameter, schedule) => (parameter, scheduleJson schedule)))]

structure Draft where
  data : Option (OrderedMap Schedule) := none

def type : RecordType Draft Reform where
  name := "Reform"
  fields := [
    .optional "data" Draft.data (fun draft data => { draft with data })
      (.map (.map ParameterValue.decoder))]
  blank := {}
  build draft := .ok ⟨draft.data.getD .empty⟩

def decoder : Decoder Reform := type.decoder

end Reform

/-- A policy: the reform it makes. -/
structure Policy where
  reform : Reform
  deriving DecidableEq, Repr

namespace Policy

def empty : Policy := ⟨.empty⟩

instance : Inhabited Policy := ⟨empty⟩

def toJson (policy : Policy) : Json :=
  .obj [("reform", policy.reform.toJson)]

structure Draft where
  reform : Option Reform := none

def type : RecordType Draft Policy where
  name := "Policy"
  fields := [
    .optional "reform" Draft.reform (fun draft reform => { draft with reform }) Reform.decoder]
  blank := {}
  build draft := .ok ⟨draft.reform.getD .empty⟩

def decoder : Decoder Policy := type.decoder

end Policy

end SimulationScript
