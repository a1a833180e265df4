import SimulationScript.Config
import SimulationScript.Settings.Basic

/-! # The configuration in a tree of settings

Settings that are missing take their standard values, unknown ones do not matter, and one of a wrong
kind spoils the whole configuration. Records may be written as lists of their fields.
-/

namespace SimulationScript.Setting

/-- A year: an integer of 32 bits or a text that spells one. -/
def asYear? : Setting → Option Year
  | .integer n => (natural32? n).map Year.mk
  | .text s => Year.ofText? s.toList
  | _ => none

def asTexts? : Setting → Option (List String)
  | .list items => items.mapM asText?
  | _ => none

def asEarningAxis? (setting : Setting) : Option EarningAxis := do
  let fields ← setting.fields? ["variable", "count", "min", "max"]
  let variableName ← field? fields "variable" asText?
  let count ← field? fields "count" asNatural32?
  let min ← field? fields "min" asInteger64?
  let max ← field? fields "max" asInteger64?
  let standard := EarningAxis.standard
  return {
    variableName := variableName.getD standard.variableName
    count := count.getD standard.count
    min := min.getD standard.min
    max := max.getD standard.max }

def asConfig? (setting : Setting) : Option Config := do
  let fields ← setting.fields? ["default_year", "us_regions", "earning_axis", "output_variable"]
  let defaultYear ← field? fields "default_year" asYear?
  let usRegions ← field? fields "us_regions" asTexts?
  let earningAxis ← field? fields "earning_axis" asEarningAxis?
  let outputVariable ← field? fields "output_variable" asText?
  let draft : Config.Draft := { defaultYear, usRegions, earningAxis, outputVariable }
  return draft.config

/-- The settings of the log, which only have to be of the right kinds. -/
def checkLogging? (setting : Setting) : Option Unit := do
  let fields ← setting.fields? ["level", "json"]
  let _ ← field? fields "level" asText?
  let _ ← field? fields "json" asFlag?
  return ()

/-- The configuration that a tree of settings makes, or none when a setting is of a wrong kind. -/
def config? (root : Setting) : Option Config := do
  let config ← field? root.entries "codegen" asConfig?
  let _ ← field? root.entries "logging" checkLogging?
  return config.getD .standard

end SimulationScript.Setting
