import SimulationScript.Command.Arguments
import SimulationScript.Command.Disk
import SimulationScript.Plan.Script
import SimulationScript.Policy.Span
import SimulationScript.Request
import SimulationScript.Settings.Configuration
import SimulationScript.Settings.Sources

/-! # Running commands

A run loads its configuration, reads a request, and generates its script or validates and
summarises it. The first thing that fails ends the run.
-/

namespace SimulationScript.Command

/-- Why a run fails. -/
inductive Failure where
  | configuration
  /-- A setting is put at a position that no item of a list can have. -/
  | noPosition
  | unreadable (name : String)
  | invalidRequest (name : String)
  | generation (cause : ScriptError)
  | unwritable (name : String)
  | reform (cause : ScriptError)
  deriving DecidableEq, Repr

namespace Failure

/-- The wording of a failure. A position that does not exist ends the run without a word. -/
def message? : Failure → Option String
  | configuration => some "failed to load configuration"
  | noPosition => none
  | unreadable name => some ("failed to read request " ++ name)
  | invalidRequest name => some ("invalid request " ++ name)
  | generation _ => some "failed to generate script"
  | unwritable name => some ("failed to write " ++ name)
  | reform _ => some "invalid reform"

def code : Failure → UInt8
  | noPosition => 101
  | _ => 1

end Failure

inductive Outcome where
  | done (printed : String)
  | failed (failure : Failure)
  | misuse
  deriving DecidableEq, Repr

def Outcome.code : Outcome → UInt8
  | done _ => 0
  | failed failure => failure.code
  | misuse => 2

def versionLine : String := "repro 0.1.0\n"

/-- The script that the command line generates for a request. -/
def generateScript (config : Config) (request : Request) : Except ScriptError Script :=
  generate .schema config request

/-- The validation of a request: the span of its policy, whatever its scope and region. -/
def checkRequest (request : Request) : Except ScriptError (Option Span) :=
  request.policy.span

/-- The summary of a request that has been validated. -/
def summary (request : Request) (span : Option Span) : String :=
  let region := if request.region.isEmpty then "-" else request.region
  let active := match span with
    | some span => span.earliestStart ++ " to " ++ span.latestEnd
    | none => "-"
  "scope:      " ++ request.scope.name ++ "\n" ++
    "region:     " ++ region ++ "\n" ++
    "parameters: " ++
      String.ofList (Text.numeral request.policy.reform.parameterCount) ++ "\n" ++
    "active:     " ++ active ++ "\n"

section

variable {m : Type → Type} [Monad m]

/-- Runs that may fail. -/
abbrev Attempt (m : Type → Type) := ExceptT Failure m

/-- The first of several files that is there, with its text. -/
def firstFile? (disk : Disk m) : List (Option Setting.Format × String) →
    Attempt m (Option (Option Setting.Format × String))
  | [] => return none
  | (format, name) :: rest => do
    match ← disk.read name with
    | some text => return some (format, text)
    | none => firstFile? disk rest

/-- The files that may hold the configuration of a given name: the one of this name, whose
    extension tells its format, and else the ones with the extensions of the formats added. -/
def configurationFiles (name : String) : List (Option Setting.Format × String) :=
  let added (base : String) : List (Option Setting.Format × String) :=
    [(some .toml, base ++ ".toml"), (some .json, base ++ ".json")]
  (Setting.Format.ofExtension? (extension name), name) :: ((baseName? name).map added).getD []

/-- The entries of the configuration file, if there is one. A file whose name does not tell its
    format is left alone. -/
def fileEntries (disk : Disk m) (name : String) : Attempt m (List (String × Setting)) := do
  match ← firstFile? disk (configurationFiles name) with
  | some (some format, text) =>
    let some entries := Setting.ofFile? format text | throw .configuration
    return entries
  | _ => return []

def loadConfig (disk : Disk m) (environment : List (String × String)) (file : Option String) :
    Attempt m Config := do
  let entries ← match file.or (environment.lookup "REPRO_CONFIG") with
    | some name => fileEntries disk name
    | none => pure []
  let entries := entries ++ Setting.ofEnvironment environment
  let some root := Setting.putAll? entries .standard | throw .noPosition
  let some config := root.config? | throw .configuration
  return config

def readRequest (disk : Disk m) (name : String) : Attempt m Request := do
  let some text ← disk.read name | throw (.unreadable name)
  match Request.decoder.ofDocument text with
  | .ok request => return request
  | .error _ => throw (.invalidRequest name)

/-- Carries out an action and gives what it prints. -/
def perform (disk : Disk m) (config : Config) : Action → Attempt m String
  | .generate name output defaultYear => do
    let config := { config with defaultYear := defaultYear.getD config.defaultYear }
    let request ← readRequest disk name
    match generateScript config request with
    | .error cause => throw (.generation cause)
    | .ok script =>
      match output with
      | none => return script.source
      | some target =>
        if ← disk.write target script.source then return "" else throw (.unwritable target)
  | .check name => do
    let request ← readRequest disk name
    match checkRequest request with
    | .error cause => throw (.reform cause)
    | .ok span => return summary request span

/-- A whole run. -/
def run (disk : Disk m) (environment : List (String × String)) (arguments : List String) :
    m Outcome := do
  match ask arguments with
  | .misuse => return .misuse
  | .version => return .done versionLine
  | .run invocation =>
    let attempt : Attempt m String := do
      let config ← loadConfig disk environment invocation.config
      perform disk config invocation.action
    match ← attempt.run with
    | .ok printed => return .done printed
    | .error failure => return .failed failure

end

end SimulationScript.Command
