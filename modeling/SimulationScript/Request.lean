import SimulationScript.Scope
import SimulationScript.Year
import SimulationScript.Metadata
import SimulationScript.Policy.Reform

/-! # Requests

Everything needed to reproduce one simulation.
-/

namespace SimulationScript

structure Request where
  scope : Scope
  info : Metadata
  policy : Policy
  region : String
  year : Option Year
  /-- Entity groups, their instances, the variables of each and their values by year. -/
  household : Option Json
  /-- Whether one income is swept along an axis. -/
  earningVariation : Bool
  deriving Repr

namespace Request

/-- A population simulation without reform or year. -/
def ofRegion (info : Metadata) (region : String) : Request :=
  ⟨.policy, info, .empty, region, none, none, false⟩

/-- A household simulation without reform or year. -/
def ofHousehold (info : Metadata) (household : Json) : Request :=
  ⟨.household, info, .empty, "", none, some household, false⟩

def withReform (request : Request) (reform : Reform) : Request :=
  { request with policy := ⟨reform⟩ }

def orNull (value : Option Json) : Json :=
  value.getD .null

def toJson (request : Request) : Json :=
  .obj [
    ("type", request.scope.toJson),
    ("metadata", request.info.toJson),
    ("policy", request.policy.toJson),
    ("region", .str request.region),
    ("year", orNull (request.year.map Year.toJson)),
    ("household_input", orNull request.household),
    ("earning_variation", .bool request.earningVariation)]

structure Draft where
  scope : Option Scope := none
  info : Option Metadata := none
  policy : Option Policy := none
  region : Option String := none
  year : Option (Option Year) := none
  household : Option (Option Json) := none
  earningVariation : Option Bool := none

def type : RecordType Draft Request where
  name := "ReproRequest"
  fields := [
    .needed "type" Draft.scope (fun draft scope => { draft with scope }) Scope.decoder,
    .needed "metadata" Draft.info (fun draft info => { draft with info }) Metadata.decoder,
    .optional "policy" Draft.policy (fun draft policy => { draft with policy }) Policy.decoder,
    .optional "region" Draft.region (fun draft region => { draft with region }) .text,
    .optional "year" Draft.year (fun draft year => { draft with year := some year })
      (.nullable Year.decoder),
    .optional "household_input" Draft.household
      (fun draft household => { draft with household := some household })
      (.nullable .any) ["householdInput"],
    .optional "earning_variation" Draft.earningVariation
      (fun draft earningVariation => { draft with earningVariation }) .flag ["earningVariation"]]
  blank := {}
  build draft := do
    let scope ← RecordType.require "type" draft.scope
    let info ← RecordType.require "metadata" draft.info
    return {
      scope
      info
      policy := draft.policy.getD .empty
      region := draft.region.getD ""
      year := draft.year.getD none
      household := draft.household.getD none
      earningVariation := draft.earningVariation.getD false }

def decoder : Decoder Request := type.decoder

end Request

end SimulationScript
