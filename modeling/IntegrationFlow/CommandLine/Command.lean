import IntegrationFlow.CommandLine.Option
import IntegrationFlow.Decimal.Reading

/-!
# Commands

`Invocation.parse` reads a command line: how the log is set up, and which command is to be carried out.
-/

namespace IntegrationFlow.CommandLine

/-- What the command `run` is told. -/
structure RunOptions where
  flow : String
  input? : Option String := none
  inputFile? : Option String := none
  openCircuits : List String := []
  timeScale? : Option Float := none
  json : Bool := false

/-- A command. -/
inductive Command where
  | validate (flow : String) (json : Bool)
  | run (options : RunOptions)
  | nodeTypes (json : Bool)
  /-- Offer the service on a network until interrupted. -/
  | serve (host? storage? : Option String) (port? : Option Int)

/-- A command line that has been understood. -/
structure Invocation where
  logLevel : String := "WARNING"
  logForm : String := "auto"
  command : Command

/-- The text is a number. -/
def isNumber (text : String) : Bool :=
  (Decimal.readFloat? text).isSome

/-- The whole number that a text stands for. -/
def whole? (text : String) : Option Int :=
  match Decimal.readInt 10 text with
  | .ok n => some n
  | .error _ => none

/-- The names of the forms of the log. -/
def logForms : List String :=
  ["auto", "json", "human"]

/-- The options in front of the command. -/
def mainGrammar : Grammar where
  flags := [helpFlag, { key := "log-level", names := ["--log-level"], takesValue := true },
    { key := "log-format", names := ["--log-format"], takesValue := true, allows := logForms.contains }]
  operand := .command

/-- The option that asks for JSON. -/
def jsonFlag : Flag :=
  { key := "json", names := ["--json"] }

/-- The options of `validate`. -/
def validateGrammar : Grammar where
  flags := [helpFlag, jsonFlag]
  operand := .argument

/-- The options of `run`. -/
def runGrammar : Grammar where
  flags := [helpFlag, { key := "input", names := ["--input", "-i"], takesValue := true },
    { key := "input-file", names := ["--input-file"], takesValue := true },
    { key := "open-circuit", names := ["--open-circuit"], takesValue := true },
    { key := "time-scale", names := ["--time-scale"], takesValue := true, allows := isNumber }, jsonFlag]
  operand := .argument

/-- The options of `node-types`. -/
def nodeTypesGrammar : Grammar where
  flags := [helpFlag, jsonFlag]
  operand := .nothing

/-- The options of `serve`. -/
def serveGrammar : Grammar where
  flags := [helpFlag, { key := "host", names := ["--host"], takesValue := true },
    { key := "port", names := ["--port"], takesValue := true, allows := fun s => (whole? s).isSome },
    { key := "storage", names := ["--storage"], takesValue := true }]
  operand := .nothing

/-- The argument of a command, which must be given. -/
def argument (r : Reading) : Except Stop String :=
  match r.operand with
  | [text] => .ok text
  | _ => .error .misuse

/-- Read a command with its options; whether there are words that it does not take. -/
def readCommand (name : String) (args : List String) : Except Stop (Command × Bool) :=
  match name with
  | "validate" => do
    let r ← validateGrammar.parse args
    return (.validate (← argument r) (r.has "json"), r.excess)
  | "run" => do
    let r ← runGrammar.parse args
    let options : RunOptions :=
      { flow := ← argument r, input? := r.value? "input", inputFile? := r.value? "input-file"
        openCircuits := r.values "open-circuit", timeScale? := (r.value? "time-scale").bind Decimal.readFloat?
        json := r.has "json" }
    return (.run options, r.excess)
  | "node-types" => do
    let r ← nodeTypesGrammar.parse args
    return (.nodeTypes (r.has "json"), r.excess)
  | "serve" => do
    let r ← serveGrammar.parse args
    return (.serve (r.value? "host") (r.value? "storage") ((r.value? "port").bind whole?), r.excess)
  | _ => .error .misuse

/-- Read a command line. -/
def Invocation.parse (args : List String) : Except Stop Invocation := do
  let r ← mainGrammar.parse args
  match r.operand with
  | [] => throw .misuse
  | name :: rest =>
    let (command, excess) ← readCommand name rest
    if r.excess || excess then throw .misuse
    return ⟨(r.value? "log-level").getD "WARNING", (r.value? "log-format").getD "auto", command⟩

end IntegrationFlow.CommandLine
