import SimulationScript.Command.Run

/-! # The program

Runs the command line on the files and the environment of the process.
-/

namespace SimulationScript

open Command

def processDisk : Disk IO where
  read name := do
    try return some (← IO.FS.readFile name) catch _ => return none
  write name text := do
    try
      IO.FS.writeFile name text
      return true
    catch _ => return false

def environmentNames : List String :=
  ["REPRO_CONFIG", "REPRO_CODEGEN__DEFAULT_YEAR", "REPRO_CODEGEN__US_REGIONS",
    "REPRO_CODEGEN__EARNING_AXIS__VARIABLE", "REPRO_CODEGEN__EARNING_AXIS__COUNT",
    "REPRO_CODEGEN__EARNING_AXIS__MIN", "REPRO_CODEGEN__EARNING_AXIS__MAX",
    "REPRO_CODEGEN__OUTPUT_VARIABLE", "REPRO_LOGGING__LEVEL", "REPRO_LOGGING__JSON"]

def processEnvironment : IO (List (String × String)) :=
  environmentNames.filterMapM fun name => do
    return (← IO.getEnv name).map (name, ·)

end SimulationScript

def main (arguments : List String) : IO UInt32 := do
  let environment ← SimulationScript.processEnvironment
  let outcome ← SimulationScript.Command.run SimulationScript.processDisk environment arguments
  match outcome with
  | .done printed => IO.print printed
  | .failed failure =>
    if let some message := failure.message? then IO.eprintln ("Error: " ++ message)
  | .misuse => IO.eprintln "error: the arguments make no sense"
  return outcome.code.toUInt32
