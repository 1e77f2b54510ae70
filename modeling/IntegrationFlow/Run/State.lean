import IntegrationFlow.Run.Document
import IntegrationFlow.Run.Trace
import IntegrationFlow.Simulation.Breaker
import IntegrationFlow.Simulation.Clock
import IntegrationFlow.Simulation.Duration
import IntegrationFlow.Event
import IntegrationFlow.GraphError

/-!
# The state of a run

A run goes from one `State` to the next. `Sim` is a computation on it that may stop: with a fault, which ends the run
and is reported in its trace, or with a mishap that ends the run without a trace. What was recorded before stays.
-/

namespace IntegrationFlow.Run

open Simulation

/-- Why the engine cannot go on. -/
inductive Fault where
  | noIngress (flow : String)
  | unordered (flow : String)
  | unregistered (node type : String)
  | noSemantics (type : String)
  | badConfig (node : String) (e : GraphError)
  | unknownPort (edge node : String)
  | illegalTransition (before after : RunStatus)
  | custom

/-- The wording of a fault. -/
def Fault.message : Fault → String
  | .noIngress flow => "Flow '" ++ flow ++ "' has no ingress node"
  | .unordered flow => "Flow '" ++ flow ++ "' could not be ordered topologically"
  | .unregistered node type => "Node '" ++ node ++ "' references unregistered type '" ++ type ++ "'"
  | .noSemantics type => "No simulation semantics registered for node type '" ++ type ++ "'"
  | .badConfig node e => "Config of validated node '" ++ node ++ "' no longer parses: " ++ e.message
  | .unknownPort edge node => "Edge '" ++ edge ++ "' leaves unknown port of node '" ++ node ++ "'"
  | .illegalTransition before after => "Illegal run transition " ++ before.name ++ " -> " ++ after.name
  | .custom => "custom handler fault"

/-- What a node does whose type is not built in. -/
inductive Behaviour where
  /-- It hands its input on. -/
  | passthrough
  /-- It fails. -/
  | fail
  /-- It is at fault. -/
  | fault
  /-- It hands its input on through the outputs that the input names. -/
  | ports
  /-- It tries to start the run a second time. -/
  | illegal
deriving DecidableEq

/-- What all runs of an engine have in common. -/
structure Engine where
  registry : Registry := .builtin
  behaviours : List (String × Behaviour) := []
  durations : DurationModel := {}
  policy : BreakerPolicy := {}

/-- A moment at which others get a word in: an event was published, or simulated time passes. -/
inductive Moment where
  | published (e : Event)
  | suspended

/-- The event that was published at a moment. -/
def Moment.event? : Moment → Option Event
  | .published e => some e
  | .suspended => none

/-- What a run is about. -/
structure Env where
  engine : Engine
  flow : Flow
  input : Value
  execution : String
  /-- Events are published. -/
  observed : Bool := false
  /-- Whether others have cancelled the run at the latest of the moments so far. -/
  cancels : List Moment → Bool := fun _ => false

/-- What an edge carries once its source was visited. -/
inductive Signal where
  /-- The branch was not taken. -/
  | inactive
  /-- The producer's output, and a failure from further up that nothing has absorbed. -/
  | active (payload : Place) (failure? : Option Failure)
  /-- A failure on an error channel. -/
  | failing (payload : Place) (failure? : Option Failure)
deriving DecidableEq

namespace Signal

/-- What the edge hands over. -/
def payload? : Signal → Option Place
  | .inactive => none
  | .active p _ => some p
  | .failing p _ => some p

/-- The failure that nothing has absorbed. -/
def failure? : Signal → Option Failure
  | .inactive => none
  | .active _ f => f
  | .failing _ f => f

/-- The edge carries something. -/
def isLive (s : Signal) : Bool :=
  s != .inactive

end Signal

/-- What was recorded of a step; its values are those of the places when the run has ended. -/
structure Record where
  node : String
  type : String
  status : StepStatus
  input? : Option Place := none
  output? : Option Place := none
  error? : Option Failure := none
  duration : Int := 0
  retryCount : Nat := 0
  /-- The connector and the endpoint that were called. -/
  called? : Option (Value × Value) := none

namespace Record

/-- The status of a response to a failed call. -/
def responseStatus : FailureCause → Int
  | .timedOut _ _ => 504
  | .circuitOpen _ => 503
  | _ => 500

/-- The exchange of a step that called an endpoint. -/
def exchange (r : Record) (connector endpoint input output : Value) : Exchange where
  request := .ofFields [("connectorId", connector), ("endpointId", endpoint), ("body", input)]
  response :=
    match r.error? with
    | none => .ofFields [("status", .int 200), ("body", output)]
    | some f => .ofFields [("status", .int (responseStatus f.cause)), ("error", .text f.cause.message)]

/-- The step with its values. -/
def toStep (d : Documents) (r : Record) : Step :=
  let input := (r.input?.map fun p => (d.read p).value).getD .null
  let output := (r.output?.map fun p => (d.read p).value).getD .null
  { node := r.node, type := r.type, status := r.status, input, output, error? := r.error?, duration := r.duration,
    retryCount := r.retryCount, exchange? := r.called?.map fun c => r.exchange c.1 c.2 input output }

end Record

/-- The state of a run. -/
structure State where
  status : RunStatus := .pending
  clock : Clock := {}
  breakers : Breakers := {}
  documents : Documents := {}
  /-- What the edges carry, by their ids. -/
  signals : List (String × Signal) := []
  /-- With what the nodes were invoked, by their ids. -/
  invoked : List (String × Signal) := []
  /-- How often the nodes have made their call, by their ids. -/
  attempts : List (String × Nat) := []
  records : List Record := []
  unrecovered : List Failure := []
  cancelled : Bool := false
  /-- The moments so far, the latest one last. -/
  moments : List Moment := []

/-- The events that were published. -/
def State.events (s : State) : List Event :=
  s.moments.filterMap Moment.event?

/-- Why a computation stops. -/
inductive Stop where
  | fault (f : Fault)
  | crashed (m : Expression.Mishap)
  /-- A step has no JSON form. -/
  | unwritable (why : Json.Unwritable)

/-- A computation on the state of a run. -/
abbrev Sim := EStateM Stop State

namespace Sim

/-- Stop with a fault. -/
def fault {α : Type} (f : Fault) : Sim α :=
  throw (.fault f)

/-- A result that does not come without a mishap. -/
def ofMishap {α : Type} : Except Expression.Mishap α → Sim α
  | .ok a => pure a
  | .error m => throw (.crashed m)

/-- A moment passes; at each of them the run may be cancelled. -/
def moment (env : Env) (m : Moment) : Sim Unit :=
  modify fun s =>
    { s with cancelled := s.cancelled || env.cancels (s.moments ++ [m]), moments := s.moments ++ [m] }

/-- Publish an event. -/
def publish (env : Env) (e : Event) : Sim Unit :=
  if env.observed then moment env (.published e) else pure ()

/-- Let time pass. -/
def advance (ms : Int) : Sim Unit :=
  modify fun s => { s with clock := s.clock.advance ms }

/-- Wait. -/
def suspend (env : Env) (ms : Int) : Sim Unit := do
  advance ms
  moment env .suspended

/-- Go to another status. -/
def transition (new : RunStatus) : Sim Unit := do
  let s ← get
  if s.status.allows new then set { s with status := new } else fault (.illegalTransition s.status new)

/-- The value of a place. -/
def read (p : Place) : Sim Cell :=
  return (← get).documents.read p

/-- Store a value. -/
def store (p : Place) (c : Cell) : Sim Unit :=
  modify fun s => { s with documents := s.documents.store p c }

/-- Set what an edge carries. -/
def setSignal (edge : String) (signal : Signal) : Sim Unit :=
  modify fun s => { s with signals := (edge, signal) :: s.signals }

/-- The type of a node. -/
def typeOf (env : Env) (n : Node) : Sim NodeType :=
  match env.engine.registry.find? n.type with
  | some t => pure t
  | none => fault (.unregistered n.id n.type)

/-- How long a node takes. -/
def durationOf (env : Env) (n : Node) : Sim Int :=
  ofMishap (env.engine.durations.ofNode n)

/-- Count an attempt of a node; the first one has number one. -/
def nextAttempt (node : String) : Sim Nat := do
  let number := ((← get).attempts.lookup node).getD 0 + 1
  modify fun s => { s with attempts := (node, number) :: s.attempts.filter (·.1 != node) }
  return number

/-- Add a record, and publish it. -/
def record (env : Env) (r : Record) : Sim Unit := do
  modify fun s => { s with records := s.records ++ [r] }
  if env.observed then
    match (r.toStep (← get).documents).toJson with
    | .ok v => publish env (.stepRecorded env.flow.id env.execution v)
    | .error why => throw (.unwritable why)
  else pure ()

end Sim

end IntegrationFlow.Run
