import IntegrationFlow.CommandLine.Perform

/-!
# The program

Reads the files that the command line names, carries the command line out and shows what it leaves behind.
-/

namespace IntegrationFlow.Program

open CommandLine File

/-- The variables of the environment that the program looks at. -/
def variableNames : List String :=
  ["HOME", "FLOWDESIGNER_HOME", "FLOWDESIGNER_TIME_SCALE", "FLOWDESIGNER_HOST", "FLOWDESIGNER_PORT",
    "FLOWDESIGNER_STORAGE", "LOG_FORMAT", "ENV"]

/-- The variables that are set. -/
def readEnvironment : IO (List (String × String)) := do
  let found ← variableNames.mapM fun name => do return (← IO.getEnv name).map fun value => (name, value)
  return found.filterMap id

/-- Read a file. -/
def readLocation (l : Location) : IO (Except File.Problem String) := do
  try
    return .ok (← IO.FS.readFile l.render)
  catch e =>
    match e with
    | .inappropriateType .. => return .error .isDirectory
    | _ => return .error .missing

/-- An execution id that no other run has. -/
def newExecution : IO String := do
  return String.ofList (hexText 32 (← IO.rand 0 (Nat.pow 2 128 - 1)))

/-- How the program is called. -/
def usage : String :=
  "usage: flowdesigner [--log-level LEVEL] [--log-format \x7bauto,json,human\x7d] \x7bvalidate,run,node-types,serve\x7d ..."

/-- Show what a command line leaves behind. -/
def finish (e : Effects) : IO UInt32 := do
  if let some v := e.output? then
    match Json.writable v with
    | .ok v => IO.println (Json.pretty v)
    | .error _ => pure ()
  for shown in e.console do
    for line in shown.lines do
      IO.println line
  for line in e.errors do
    IO.eprintln line
  match e.exit with
  | .code 2 => IO.eprintln usage; return 2
  | .code n => return n.toUInt32
  | .broken _ => return 1

/-- Carry out a command line. -/
def start (args : List String) : IO UInt32 := do
  let environment ← readEnvironment
  let files ← (locations environment args).mapM fun l => do return (l, ← readLocation l)
  let read (l : Location) : Except File.Problem String := (files.lookup l).getD (.error .missing)
  finish (perform { environment, read, execution := ← newExecution } args)

end IntegrationFlow.Program

/-- The program. -/
def main (args : List String) : IO UInt32 :=
  IntegrationFlow.Program.start args
