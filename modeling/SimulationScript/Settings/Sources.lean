import SimulationScript.Config
import SimulationScript.Json.Reader
import SimulationScript.Settings.Path
import SimulationScript.Settings.Toml.Document
import SimulationScript.Text.Replace

/-! # Sources of settings

Settings come from the standard configuration, a configuration file and environment variables, in
this order. What a source sets is put into the tree of those before it.
-/

namespace SimulationScript.Setting

/-- A number of a JSON document; integers of more than 64 bits with sign become decimals. -/
def ofNumber : Number → Setting
  | .integer n _ =>
    if IsSignedWord n then .integer n else .ofDecimal false n.natAbs 0
  | .float x => .decimal x

mutual

def ofJson : Json → Setting
  | .null => .null
  | .bool b => .flag b
  | .num n => ofNumber n
  | .str s => .text s
  | .arr items => .list (ofItems items)
  | .obj members => .table (ofMembers members)

def ofItems : List Json → List Setting
  | [] => []
  | item :: rest => ofJson item :: ofItems rest

def ofMembers : List (String × Json) → List (String × Setting)
  | [] => []
  | (key, value) :: rest => (key, ofJson value) :: ofMembers rest

end

/-- The settings that hold when nothing else is set. -/
def standard : Setting :=
  .table [
    ("codegen", ofJson Config.standard.toJson),
    ("logging", .table [("level", .text "warn"), ("json", .flag false)])]

inductive Format where
  | toml
  | json
  deriving DecidableEq, Repr

/-- The format that belongs to the extension of a file name, if there is one. -/
def Format.ofExtension? (extension : String) : Option Format :=
  if extension = "toml" then some .toml
  else if extension = "json" then some .json
  else none

/-- The entries of a configuration file, or none when it cannot be read as its format. -/
def ofFile? (format : Format) (text : String) : Option (List (String × Setting)) :=
  match format with
  | .toml => Toml.parse? text
  | .json =>
    match Json.parse text with
    | .ok (.obj members) => some (ofMembers members)
    | _ => none

/-- A decimal that may lack digits on one side of its point. -/
def looseDecimal? (cs : List Char) : Option Setting :=
  let (negative, rest) := Text.sign cs
  let isMark (c : Char) := c == 'e' || c == 'E'
  let mantissa := rest.takeWhile (!isMark ·)
  let whole := mantissa.takeWhile (· != '.')
  let fraction := (mantissa.dropWhile (· != '.')).drop 1
  let digits := whole ++ fraction
  if digits.isEmpty || !digits.all Char.isDigit then none
  else
    let exponent := match rest.dropWhile (!isMark ·) with
      | [] => some 0
      | _ :: power => Text.integer? power
    exponent.map fun exponent =>
      .ofDecimal negative (Text.numeralValue digits) (exponent - fraction.length)

/-- The value of an environment variable: a truth value, a number, or else text. -/
def ofVariable (value : String) : Setting :=
  let lower := value.toLower
  if lower = "true" then .flag true
  else if lower = "false" then .flag false
  else
    let cs := value.toList
    let (negative, magnitude) := Text.sign lower.toList
    match Text.integer? cs with
    | some n =>
      if IsSignedWord n then .integer n
      else (looseDecimal? cs).getD (.text value)
    | none =>
      if magnitude = "inf".toList ∨ magnitude = "infinity".toList then .infinite negative
      else if magnitude = "nan".toList then .undefined
      else (looseDecimal? cs).getD (.text value)

/-- The start of the names of environment variables that are settings. -/
def variableStart : String := "repro_"

/-- The key that an environment variable sets, if any. Case does not matter, and two underscores
    separate levels. -/
def variableKey? (name : String) : Option String :=
  let lower := name.toLower.toList
  let start := variableStart.toList
  if start.isPrefixOf lower then
    some (String.ofList (Text.replaceAll ['_', '_'] ['.'] (lower.drop start.length)))
  else none

def ofEnvironment (environment : List (String × String)) : List (String × Setting) :=
  environment.filterMap fun (name, value) =>
    (variableKey? name).map fun key => (key, ofVariable value)

end SimulationScript.Setting
