import SimulationScript.Year
import SimulationScript.Decoding.Record

/-! # Configuration

What generation takes from the installation instead of the request.
-/

namespace SimulationScript

/-- The sweep of one variable that takes the place of a fixed income. -/
structure EarningAxis where
  /-- The variable that is swept. -/
  variableName : String
  count : UInt32
  min : Int64
  max : Int64
  deriving DecidableEq, Repr

namespace EarningAxis

def standard : EarningAxis :=
  ⟨"employment_income", 200, 0, 200000⟩

def toJson (axis : EarningAxis) : Json :=
  .obj [
    ("variable", .str axis.variableName),
    ("count", .num (.ofUInt32 axis.count)),
    ("min", .num (.ofInt64 axis.min)),
    ("max", .num (.ofInt64 axis.max))]

/-- An axis of which fields have been read. -/
structure Draft where
  variableName : Option String := none
  count : Option UInt32 := none
  min : Option Int64 := none
  max : Option Int64 := none

def type : RecordType Draft EarningAxis where
  name := "EarningAxis"
  fields := [
    .optional "variable" Draft.variableName
      (fun draft variableName => { draft with variableName }) .text,
    .optional "count" Draft.count (fun draft count => { draft with count }) .natural32,
    .optional "min" Draft.min (fun draft min => { draft with min }) .integer64,
    .optional "max" Draft.max (fun draft max => { draft with max }) .integer64]
  blank := {}
  build draft := .ok {
    variableName := draft.variableName.getD standard.variableName
    count := draft.count.getD standard.count
    min := draft.min.getD standard.min
    max := draft.max.getD standard.max }

def decoder : Decoder EarningAxis := type.decoder

end EarningAxis

structure Config where
  /-- The year of requests that name none. -/
  defaultYear : Year
  /-- The regions whose baseline uses reported state income tax. -/
  usRegions : List String
  /-- The axis of households whose earnings vary. -/
  earningAxis : EarningAxis
  /-- The variable that scripts compute. -/
  outputVariable : String
  deriving DecidableEq, Repr

namespace Config

def standard : Config :=
  ⟨.standard, ["us", "enhanced_us"], .standard, "household_net_income"⟩

instance : Inhabited Config := ⟨standard⟩

/-- Whether a region is one of the configured US regions. -/
def isUsRegion (config : Config) (region : String) : Bool :=
  config.usRegions.contains region

def toJson (config : Config) : Json :=
  .obj [
    ("default_year", config.defaultYear.toJson),
    ("us_regions", .arr (config.usRegions.map .str)),
    ("earning_axis", config.earningAxis.toJson),
    ("output_variable", .str config.outputVariable)]

structure Draft where
  defaultYear : Option Year := none
  usRegions : Option (List String) := none
  earningAxis : Option EarningAxis := none
  outputVariable : Option String := none

/-- The settings that a draft makes; fields left out take their standard values. -/
def Draft.config (draft : Draft) : Config where
  defaultYear := draft.defaultYear.getD standard.defaultYear
  usRegions := draft.usRegions.getD standard.usRegions
  earningAxis := draft.earningAxis.getD standard.earningAxis
  outputVariable := draft.outputVariable.getD standard.outputVariable

def type : RecordType Draft Config where
  name := "CodegenConfig"
  fields := [
    .optional "default_year" Draft.defaultYear
      (fun draft defaultYear => { draft with defaultYear }) Year.decoder,
    .optional "us_regions" Draft.usRegions
      (fun draft usRegions => { draft with usRegions }) (.list .text),
    .optional "earning_axis" Draft.earningAxis
      (fun draft earningAxis => { draft with earningAxis }) EarningAxis.decoder,
    .optional "output_variable" Draft.outputVariable
      (fun draft outputVariable => { draft with outputVariable }) .text]
  blank := {}
  build draft := .ok draft.config

def decoder : Decoder Config := type.decoder

end Config

end SimulationScript
