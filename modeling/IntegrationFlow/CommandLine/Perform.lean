import IntegrationFlow.CommandLine.Command
import IntegrationFlow.CommandLine.Styled
import IntegrationFlow.File.Directory
import IntegrationFlow.Log.Setup
import IntegrationFlow.Run.Engine
import IntegrationFlow.Settings.Engine

/-!
# Carrying out commands

`perform` carries out a command line in an environment: it gives what is written to the standard output, shown on the
console and reported as an error, and how the program ends. The program ends with 0 when all is well, with 1 when a
flow has errors or a run fails, and with 2 when the command line cannot be understood.
-/

namespace IntegrationFlow.CommandLine

open File Expression

/-- What a command can see of the world. -/
structure World where
  environment : List (String × String)
  read : Location → Except File.Problem String
  /-- The execution id of a run. -/
  execution : String

/-- The time of a document that names none. No command shows it. -/
def undated : Time.Timestamp := .ofSeconds 0

/-- Why the program breaks off. -/
inductive Breakdown where
  /-- The settings cannot be read. -/
  | settings (problem : Settings.Problem)
  /-- An operation met a mishap that nothing reports. -/
  | mishap (cause : Mishap)
  /-- The trace has no JSON form. -/
  | unwritable
deriving DecidableEq

/-- How the program ends. -/
inductive Exit where
  | code (n : Nat)
  | broken (why : Breakdown)
deriving DecidableEq

/-- What a command leaves behind. -/
structure Effects where
  exit : Exit
  output? : Option Value := none
  console : List Shown := []
  errors : List String := []

/-- The program breaks off. -/
def Effects.broken (why : Breakdown) : Effects :=
  { exit := .broken why }

/-- The style of a status or a severity. -/
def styleOf (name : String) : Option String :=
  [("success", "green"), ("error", "red"), ("skipped", "dim"), ("cancelled", "yellow"), ("warning", "yellow")].lookup name

/-- A status or a severity in its style. -/
def named (name : String) : Styled :=
  ⟨[(styleOf name, name)]⟩

/-- A row of the table of findings. -/
def findingRow (f : Finding) : List Styled :=
  [named f.severity.name, .text f.code, .text (f.node?.getD ""), .text (f.edge?.getD ""), .text f.message]

/-- The table of findings. -/
def findingTable (findings : List Finding) : Table :=
  ⟨"Diagnostics", ["Severity", "Code", "Node", "Edge", "Message"], findings.map findingRow⟩

/-- A row of the table of steps. -/
def stepRow (number : Nat) (s : Run.Step) : List Styled :=
  [.text (toString number), .text s.node, .text s.type, named s.status.name, .text (toString s.duration),
    .text (toString s.retryCount), .text ((s.error?.map fun e => e.cause.kind.name ++ ": " ++ e.cause.message).getD "")]

/-- The rows of the table of steps, from a number on. -/
def stepRows (number : Nat) : List Run.Step → List (List Styled)
  | [] => []
  | s :: ss => stepRow number s :: stepRows (number + 1) ss

/-- The table of a run's steps. -/
def traceTable (t : Run.Trace) : Table :=
  ⟨"Execution " ++ t.execution, ["#", "Node", "Type", "Status", "Duration (ms)", "Retries", "Error"], stepRows 1 t.steps⟩

/-- The ports of a node type. -/
def portList (ports : List Port) : String :=
  ", ".intercalate (ports.map fun p => p.id ++ ":" ++ p.type)

/-- The table of node types. -/
def typeTable (types : List NodeType) : Table :=
  ⟨"Node Types", ["Type", "Label", "Category", "Inputs", "Outputs"], types.map fun t =>
    [.text t.type, .text t.label, .text t.category.name, .text (portList t.defaultData.inputs),
      .text (portList t.defaultData.outputs)]⟩

/-- The report of a refusal. -/
def refused (e : GraphError) : Effects where
  exit := .code 1
  console := .line (.styled "red" e.code ++ .text (": " ++ e.message)) ::
    if e.findings.isEmpty then [] else [.table (findingTable e.findings)]

/-- The report of a file that cannot be read. -/
def unreadable (p : File.Problem) (l : Location) : Effects where
  exit := .code 1
  errors := ["Error: " ++ p.describe l]

/-- Check a flow. -/
def validateFlow (w : World) (path : String) (json : Bool) : Effects :=
  let l := Location.read path
  match w.read l with
  | .error p => unreadable p l
  | .ok text =>
    match Flow.parse undated text with
    | .refused problems => refused (.badDocument problems)
    | .fits f =>
      let findings := Validator.check .builtin f
      let exit := Exit.code (if findings.any (·.isError) then 1 else 0)
      if json then { exit, output? := some (.list (findings.map Finding.toValue)) }
      else if findings.isEmpty then { exit, console := [.line (.styled "green" ("Flow '" ++ f.name ++ "' is valid"))] }
      else { exit, console := [.table (findingTable findings)] }

/-- Why the input of a run cannot be read. -/
inductive InputProblem where
  | file (problem : File.Problem) (location : Location)
  | notJson

/-- The input of a run: from a file, as a text, or an empty object. -/
def inputOf (w : World) (o : RunOptions) : Except InputProblem Value :=
  let parse (text : String) : Except InputProblem Value :=
    match Json.parse text with
    | some v => .ok v
    | none => .error .notJson
  match o.inputFile?.filter (!·.isEmpty), o.input?.filter (!·.isEmpty) with
  | some path, _ =>
    let l := Location.read path
    match w.read l with
    | .ok text => parse text
    | .error p => .error (.file p l)
  | none, some text => parse text
  | none, none => .ok (.object [])

/-- The settings as a command sees them. -/
def settings (w : World) : Settings.Source :=
  ⟨w.environment, fun l => (w.read l).toOption⟩

/-- The engine that is set up by the settings. -/
def engineOf (s : Settings.EngineSettings) : Run.Engine :=
  { registry := .builtin, durations := .overriding s.durations, policy := ⟨s.failureThreshold, s.resetTimeout⟩ }

/-- The report of a run. -/
def reported (t : Run.Trace) (json : Bool) : Effects :=
  let exit := Exit.code (if t.status = .success then 0 else 1)
  match json, t.toJson with
  | true, .ok v => { exit, output? := some v }
  | true, .error _ => .broken .unwritable
  | false, _ =>
    let summary := .text "Status: " ++ named t.status.name ++
      .text ("  Duration: " ++ toString t.duration ++ "ms  Steps: " ++ toString t.steps.length)
    let error := match t.error? with
      | some e => if e.isEmpty then [] else [Shown.line (.styled "red" e)]
      | none => []
    { exit, console := .table (traceTable t) :: .line summary :: error }

/-- Run a flow. -/
def runFlow (w : World) (o : RunOptions) : Effects :=
  let l := Location.read o.flow
  match w.read l with
  | .error p => unreadable p l
  | .ok text =>
    match Flow.importText .builtin undated text with
    | .error e => refused e
    | .ok f =>
      match inputOf w o with
      | .error (.file p l) => unreadable p l
      | .error .notJson => { exit := .code 1, errors := ["Error: invalid input JSON"] }
      | .ok input =>
        match Settings.EngineSettings.read (settings w) with
        | .error p => .broken (.settings p)
        | .ok s =>
          match (engineOf s).run f { input, execution := w.execution, openCircuits := o.openCircuits } with
          | .error e => refused e
          | .ok report =>
            match report.trace with
            | .ok t => reported t o.json
            | .error (.unwritable _) => .broken .unwritable
            | .error (.crashed m) => .broken (.mishap m)

/-- List the node types. -/
def listNodeTypes (json : Bool) : Effects :=
  let types := Registry.builtin.types
  if json then { exit := .code 0, output? := some (.list (types.map NodeType.toValue)) }
  else { exit := .code 0, console := [.table (typeTable types)] }

/-- The files that a command names. -/
def Command.locations : Command → List Location
  | .validate flow _ => [.read flow]
  | .run o => .read o.flow :: o.inputFile?.toList.map Location.read
  | .nodeTypes _ => []
  | .serve _ _ _ => []

/-- The files that a command line may read: those that its command names, and the configuration file. -/
def locations (environment : List (String × String)) (args : List String) : List Location :=
  let named := match Invocation.parse args with
    | .ok i => i.command.locations
    | .error _ => []
  match (Settings.Source.mk environment fun _ => none).configurationFile with
  | .ok file => file :: named
  | .error _ => named

/-- Carry out a command. Offering the service is left to the program around it. -/
def Command.perform (w : World) : Command → Effects
  | .validate flow json => validateFlow w flow json
  | .run options => runFlow w options
  | .nodeTypes json => listNodeTypes json
  | .serve _ _ _ => { exit := .code 0 }

/-- Carry out a command line. -/
def perform (w : World) (args : List String) : Effects :=
  match Invocation.parse args with
  | .error .help => { exit := .code 0 }
  | .error .misuse => { exit := .code 2 }
  | .ok i =>
    match Log.setup w.environment i.logLevel i.logForm with
    | .error m => .broken (.mishap m)
    | .ok _ => i.command.perform w

end IntegrationFlow.CommandLine
