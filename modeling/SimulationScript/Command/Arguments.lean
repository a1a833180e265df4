import SimulationScript.Text.Numeral
import SimulationScript.Year

/-! # Command line arguments

What the arguments of a run ask for. Options may be written with their value attached or as the
next argument; those that concern the whole program may stand before or after the command.
-/

namespace SimulationScript.Command

inductive Action where
  /-- Generate the script of a request, into a file or onto standard output. -/
  | generate (request : String) (output : Option String) (defaultYear : Option Year)
  | check (request : String)
  deriving DecidableEq, Repr

/-- A run: the configuration file, if any, and what to do. -/
structure Invocation where
  config : Option String
  action : Action
  deriving DecidableEq, Repr

inductive Asked where
  | run (invocation : Invocation)
  | version
  | misuse
  deriving DecidableEq, Repr

inductive Verb where
  | generate
  | check
  deriving DecidableEq, Repr

def Verb.ofName? (name : String) : Option Verb :=
  if name = "generate" then some .generate
  else if name = "check" then some .check
  else none

inductive Flag where
  | config
  | logLevel
  | jsonLogs
  | output
  | defaultYear
  | version
  deriving DecidableEq, Repr

namespace Flag

def ofLong? (name : String) : Option Flag :=
  [("config", config), ("log-level", logLevel), ("json-logs", jsonLogs), ("output", output),
    ("default-year", defaultYear), ("version", version)].lookup name

def ofLetter? (letter : Char) : Option Flag :=
  [('c', config), ('o', output), ('V', version)].lookup letter

/-- Whether the option is known where it stands: before any command or after one. -/
def isKnownAfter (verb : Option Verb) : Flag → Bool
  | config => true
  | logLevel => true
  | jsonLogs => true
  | output => verb == some .generate
  | defaultYear => verb == some .generate
  | version => verb.isNone

def takesValue : Flag → Bool
  | jsonLogs => false
  | version => false
  | _ => true

def accepts (flag : Flag) (value : String) : Bool :=
  match flag with
  | output => !value.isEmpty
  | defaultYear =>
    ((Text.integer? value.toList).bind natural32?).isSome
  | _ => true

end Flag

structure Progress where
  verb : Option Verb := none
  before : List (Flag × String) := []
  /-- The options given since the command, or at all when there is no command yet. -/
  given : List (Flag × String) := []
  request : Option String := none
  /-- The option whose value comes next. -/
  waiting : Option Flag := none
  /-- Whether what looks like an option is none any more. -/
  plain : Bool := false

/-- Whether an argument looks like an option. A single hyphen does not. -/
def isOption (argument : String) : Bool :=
  match argument.toList with
  | '-' :: _ :: _ => true
  | _ => false

/-- An option written with two hyphens, and the value attached to it. -/
def readLong? (name : List Char) : Option (Flag × Option String) := do
  let flag ← Flag.ofLong? (String.ofList (name.takeWhile (· != '=')))
  match name.dropWhile (· != '=') with
  | [] => return (flag, none)
  | _ :: value => return (flag, some (String.ofList value))

/-- An option written as a hyphen and a letter. What follows the letter of an option that takes a
    value is its value, an equals sign apart. -/
def readLetter? (letter : Char) (rest : List Char) : Option (Flag × Option String) := do
  let flag ← Flag.ofLetter? letter
  if flag.takesValue then
    match rest with
    | [] => return (flag, none)
    | '=' :: value => return (flag, some (String.ofList value))
    | value => return (flag, some (String.ofList value))
  else return (flag, none)

/-- The option in an argument, and the value attached to it. -/
def readOption? (argument : String) : Option (Flag × Option String) :=
  match argument.toList with
  | '-' :: '-' :: name => readLong? name
  | '-' :: letter :: rest => readLetter? letter rest
  | _ => none

namespace Progress

/-- Takes in an option, unless it is repeated or has a senseless value. -/
def give (progress : Progress) (flag : Flag) (value : String) : Except Asked Progress :=
  if (progress.given.lookup flag).isSome || !flag.accepts value then .error .misuse
  else .ok { progress with given := (flag, value) :: progress.given, waiting := none }

/-- Takes in an argument that is no option: the command, or else the request. -/
def name (progress : Progress) (value : String) : Except Asked Progress :=
  match progress.verb with
  | none =>
    match Verb.ofName? value with
    | some verb =>
      if progress.plain then .error .misuse
      else .ok { progress with verb := some verb, before := progress.given, given := [] }
    | none => .error .misuse
  | some _ =>
    if progress.request.isSome || value.isEmpty then .error .misuse
    else .ok { progress with request := some value }

/-- Takes in one argument. The first that makes no sense decides, and so does the question for
    the version. -/
def next (progress : Progress) (argument : String) : Except Asked Progress :=
  if progress.plain then progress.name argument
  else match progress.waiting with
  | some flag =>
    if isOption argument then .error .misuse else progress.give flag argument
  | none =>
    if !isOption argument then progress.name argument
    else if argument = "--" then .ok { progress with plain := true }
    else match readOption? argument with
    | none => .error .misuse
    | some (flag, value) =>
      if !flag.isKnownAfter progress.verb then .error .misuse
      else match flag.takesValue, value with
      | true, some value => progress.give flag value
      | true, none => .ok { progress with waiting := some flag }
      | false, some _ => .error .misuse
      | false, none => if flag = .version then .error .version else progress.give flag ""

/-- The value of an option; one given after the command counts. -/
def value? (progress : Progress) (flag : Flag) : Option String :=
  (progress.given.lookup flag).or (progress.before.lookup flag)

def year? (progress : Progress) : Option Year := do
  let value ← progress.value? .defaultYear
  let n ← Text.integer? value.toList
  (natural32? n).map Year.mk

/-- What the arguments ask for, when there are no more of them. -/
def finish (progress : Progress) : Asked :=
  if progress.waiting.isSome then .misuse
  else match progress.verb, progress.request with
  | some .generate, some request =>
    .run ⟨progress.value? .config,
      .generate request (progress.value? .output) progress.year?⟩
  | some .check, some request => .run ⟨progress.value? .config, .check request⟩
  | _, _ => .misuse

end Progress

def ask (arguments : List String) : Asked :=
  match arguments.foldlM Progress.next {} with
  | .ok progress => progress.finish
  | .error asked => asked

end SimulationScript.Command
