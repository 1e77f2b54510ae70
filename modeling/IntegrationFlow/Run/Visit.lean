import IntegrationFlow.Run.Handler

/-!
# Visiting a node

A node takes its input from the edges that carry something, does its work, and sets what its own edges carry. A failure
leaves through the error outputs; when a node has no edge for it, it stays unrecovered and the run ends with an error.
An error handler takes care of the failure that comes in: it replaces it by a value, has the failing node tried again,
or passes it on.
-/

namespace IntegrationFlow.Run

open Simulation

/-! ### Carrying out a node -/

/-- Charge a node that did not say how long it took with the duration of its type. -/
def finishTiming (env : Env) (n : Node) (o : NodeOutcome) : Sim NodeOutcome :=
  match o.duration? with
  | some _ => pure o
  | none => do
    let duration ← Sim.durationOf env n
    Sim.advance duration
    return { o with duration? := some duration }

/-- The configuration of a node of a built-in kind, or what a node of another type does. -/
inductive Semantics where
  | builtin (c : Config)
  | custom (b : Behaviour)

/-- What is to be done at a node. -/
def semanticsOf (env : Env) (n : Node) : Sim Semantics := do
  let t ← Sim.typeOf env n
  match t.kind? with
  | some k =>
    match k.read n.data.config with
    | .fits c => return .builtin c
    | .refused ps => Sim.fault (.badConfig n.id (.unfitConfig n.type ps))
  | none =>
    match env.engine.behaviours.lookup n.type with
    | some b => return .custom b
    | none => Sim.fault (.noSemantics n.type)

/-- Try a node again on the input that it had, for an output at a place. -/
def reinvoke (env : Env) (n : Node) (p : Place) : Sim NodeOutcome := do
  let input ← Sim.read (.input n.id)
  let o ← match ← semanticsOf env n with
    | .builtin c => work env n c (input.after p.site) input
    | .custom b => behave n input b
  finishTiming env n o

/-- Record what a node has done. The output is the value of the place. -/
def recordOutcome (env : Env) (n : Node) (o : NodeOutcome) (output : Place) : Sim Unit :=
  Sim.record env {
    node := n.id
    type := n.type
    status := if o.failure?.isSome then .error else .success
    input? := some (.input n.id)
    output? := if o.failure?.isSome then none else some output
    error? := o.failure?
    duration := o.duration?.getD 0
    retryCount := o.retryCount
    called? := o.called? }

/-! ### Error handlers -/

/-- The output through which a handler leaves when the failure was dealt with. -/
def handledPort : String := "handled"

/-- The output through which a handler passes a failure on. -/
def unhandledPort : String := "unhandled"

/-- A handler passes a failure on. -/
def passOn (f : Failure) : NodeOutcome :=
  { result := .error f, exits := .only unhandledPort }

/-- A handler that tries a node again. -/
structure Retrying where
  handler : Node
  config : ErrorHandlerConfig
  origin : Node
  /-- How long the handler itself takes. -/
  base : Int

namespace Retrying

/-- The handler is done; its own time passes now. -/
def finish (r : Retrying) (o : NodeOutcome) (waited retryCount : Nat) : Sim NodeOutcome := do
  Sim.advance r.base
  return { o with duration? := some (r.base + waited), retryCount }

/-- Make at most so many more attempts. A cancelled run makes none. -/
def attempts (r : Retrying) (env : Env) : Nat → Nat → Nat → Failure → Sim NodeOutcome
  | 0, done, waited, last => r.finish (passOn last) waited done
  | remaining + 1, done, waited, last => do
    if (← get).cancelled then r.finish (passOn last) waited done
    else
      let number := done + 1
      let delay := backoffDelay r.config.backoffStrategy r.config.backoffMs number
      Sim.suspend env delay
      Sim.publish env
        (.nodeRetry env.flow.id env.execution r.origin.id (.int number) (.text last.cause.message))
      let p := Place.retried r.handler.id
      let o ← reinvoke env r.origin p
      match o.result with
      | .ok output =>
        Sim.store p output
        recordOutcome env r.origin o p
        r.finish { result := .ok output, exits := .only handledPort, absorbed := true } (waited + delay) number
      | .error f =>
        recordOutcome env r.origin o p
        r.attempts env remaining number (waited + delay) f

end Retrying

/-- Try the node again at which a failure arose, if it ever had an input. -/
def retryOrigin (env : Env) (n : Node) (c : ErrorHandlerConfig) (f : Failure) (maxRetries : Nat) : Sim NodeOutcome := do
  let base ← Sim.durationOf env n
  match env.flow.node? f.node with
  | none => return passOn f
  | some origin =>
    if ((← get).invoked.lookup origin.id).isNone then return passOn f
    else Retrying.attempts ⟨n, c, origin, base⟩ env maxRetries 0 0 f

/-- What a handler does about a failure, and how often it may try again. A handler that names no strategy follows the
flow's own defaults. -/
def strategyOf (flow : FlowConfig) (c : ErrorHandlerConfig) : String × Nat :=
  match c.strategy with
  | none => (flow.errorHandling.name, flow.retries)
  | some "" => (flow.errorHandling.name, flow.retries)
  | some s => (s, c.maxRetries)

/-- Take care of the failure that comes in; without a failure the input is handed on. -/
def handle (env : Env) (n : Node) (c : ErrorHandlerConfig) (b : Birth) (input : Cell) (incoming : Signal) :
    Sim NodeOutcome :=
  match incoming.failure? with
  | none => return { result := .ok input, exits := .only handledPort }
  | some f =>
    let (strategy, maxRetries) := strategyOf env.flow.config c
    if strategy == Strategy.fallback.name then
      let fallback := (settingCell n "fallbackValue" c.fallbackValue).copy b
      return { result := .ok fallback, exits := .only handledPort, absorbed := true }
    else if strategy == Strategy.retry.name then retryOrigin env n c f maxRetries
    else return passOn f

/-- Carry out a node for the first time. -/
def invoke (env : Env) (n : Node) (incoming : Signal) : Sim NodeOutcome := do
  let input ← Sim.read (.input n.id)
  let b := input.after (Place.output n.id).site
  let o ← match ← semanticsOf env n with
    | .builtin (.errorHandler c) => handle env n c b input incoming
    | .builtin c => work env n c b input
    | .custom b => behave n input b
  finishTiming env n o

/-! ### The input of a node -/

/-- The name of the kind of a value, as far as JSON has one. -/
def jsonKind (c : Cell) : String :=
  match c.value with
  | .null => "null"
  | .bool _ => "boolean"
  | .int _ => "number"
  | .float _ => "number"
  | .text _ => "string"
  | .broken _ => "string"
  | .list _ => "array"
  | .object _ => "object"
  | v => v.kindName

/-- A value may arrive at a port of a type. Only ports for objects and arrays check what arrives. -/
def accepts (type : String) (c : Cell) : Bool :=
  match type, c with
  | "object", .object _ _ => true
  | "array", .list _ _ => true
  | "object", _ => false
  | "array", _ => false
  | _, _ => true

/-- What an edge hands over to a node from the place that it carries. -/
def handOver (n : Node) (e : Edge) (payload : Place) : Sim (Outcome Cell) := do
  let mapped := e.mapInputs (← Sim.read payload)
  modify fun s => { s with documents := s.documents.writeAll mapped.writes }
  match mapped.result with
  | .error halt => return .error halt
  | .ok c =>
    match n.input? e.targetPort? with
    | some port =>
      if accepts port.type c then return .ok c
      else return .error (.failed (.wrongInput port.id n.id port.type (jsonKind c)))
    | none => return .ok c

/-- What several edges hand over, in order, up to the first that fails. -/
def handOverAll (n : Node) : List (Edge × Place) → Sim (Outcome (List Cell))
  | [] => return .ok []
  | (e, payload) :: rest => do
    match ← handOver n e payload with
    | .error halt => return .error halt
    | .ok c =>
      match ← handOverAll n rest with
      | .error halt => return .error halt
      | .ok cs => return .ok (c :: cs)

/-- One input as it is, several as a list. -/
def combine (n : Node) : List Cell → Cell
  | [c] => c
  | cs => Birth.list ⟨Cell.ageOfItems cs + 1, (Place.input n.id).site⟩ cs

/-- The input of a node, from the edges that carry something. -/
def inputOf (n : Node) (t : NodeType) (live : List (Edge × Place)) : Sim (Outcome Cell) := do
  if live.length > 1 && !t.mergeSupport then return .error (.failed (.noMerging n.id live.length))
  else
    match ← handOverAll n live with
    | .error halt => return .error halt
    | .ok cs => return .ok (combine n cs)

/-- What came in where no input could be made of it. -/
def rawInput (n : Node) (live : List (Edge × Place)) : Sim Cell := do
  let cs ← live.mapM fun (_, payload) => Sim.read payload
  return combine n cs

/-! ### What the edges of a node carry -/

/-- The edge that leaves through a port carries something. -/
def isSelected (o : NodeOutcome) (port : Port) : Except Expression.Mishap Bool :=
  match o.exits with
  | .fitting => .ok (if o.failure?.isSome then port.type == errorType else port.type != errorType)
  | .only id => .ok (port.id == id)
  | .within c => Expression.contains c (.atom .only (.ofString port.id))

/-- What an edge carries that leaves through a port, when it carries something. -/
def signalAt (payload : Place) (failure? : Option Failure) (port : Port) : Signal :=
  if port.type == errorType then .failing payload failure? else .active payload failure?

/-- Set what the edges carry; whether one of them carries something. -/
def setSignals (n : Node) (o : NodeOutcome) (payload : Place) (failure? : Option Failure) : List Edge → Sim Bool
  | [] => return false
  | e :: es => do
    match n.output? e.sourcePort? with
    | none => Sim.fault (.unknownPort e.id n.id)
    | some port =>
      let selected ← Sim.ofMishap (isSelected o port)
      Sim.setSignal e.id (if selected then signalAt payload failure? port else .inactive)
      let later ← setSignals n o payload failure? es
      return selected || later

/-- The failure that goes on from a node: its own, or the one that came in and was not absorbed. -/
def outstanding (o : NodeOutcome) (incoming : Signal) : Option Failure :=
  match o.result with
  | .error f => some f
  | .ok _ => if o.absorbed then none else incoming.failure?

/-- Hand an outcome on to the edges of a node. A failure that no edge carries stays unrecovered. -/
def route (env : Env) (n : Node) (o : NodeOutcome) (incoming : Signal) : Sim Unit := do
  let failure? := outstanding o incoming
  let emitted ← setSignals n o (.output n.id) failure? (env.flow.outgoing n.id)
  match failure? with
  | some f =>
    if emitted then pure () else modify fun s => { s with unrecovered := s.unrecovered ++ [f] }
  | none => pure ()

/-! ### The visit -/

/-- Record that a node is passed over; none of its edges carries anything. -/
def skip (env : Env) (n : Node) : Sim Unit := do
  Sim.record env { node := n.id, type := n.type, status := .skipped }
  (env.flow.outgoing n.id).forM fun e => Sim.setSignal e.id .inactive

/-- The edges of a node that carry something. -/
def liveEdges (f : Flow) (signals : List (String × Signal)) (n : Node) : List (Edge × Signal) :=
  ((f.incoming n.id).map fun e => (e, (signals.lookup e.id).getD .inactive)).filter (·.2.isLive)

/-- Some signal is a failure on an error channel. -/
def isFailing (signals : List Signal) : Bool :=
  signals.any fun
    | .failing _ _ => true
    | _ => false

/-- What all that comes in amounts to: a failure when one part of it is, and the first failure that it carries. -/
def merge (p : Place) (signals : List Signal) : Signal :=
  let failure? := signals.findSome? Signal.failure?
  if isFailing signals then .failing p failure? else .active p failure?

/-- The place and the value of an outcome for the edges: the output, or the failure as a value. -/
def storeOutput (n : Node) (o : NodeOutcome) : Sim Unit :=
  Sim.store (.output n.id) <|
    match o.result with
    | .ok output => output
    | .error f => .ofValue (Place.output n.id).site f.toValue

/-- Record an outcome and hand it on. -/
def conclude (env : Env) (n : Node) (o : NodeOutcome) (incoming : Signal) : Sim Unit := do
  storeOutput n o
  recordOutcome env n o (.output n.id)
  route env n o incoming

/-- Carry out a node on an input. -/
def proceed (env : Env) (n : Node) (input : Cell) (incoming : Signal) : Sim Unit := do
  Sim.store (.input n.id) input
  modify fun s => { s with invoked := (n.id, incoming) :: s.invoked }
  let o ← invoke env n incoming
  conclude env n o incoming

/-- Visit a node behind the ingress. -/
def visitInner (env : Env) (n : Node) (t : NodeType) : Sim Unit := do
  match liveEdges env.flow (← get).signals n with
  | [] => skip env n
  | live =>
    let incoming := merge (.input n.id) (live.map (·.2))
    let sources := live.filterMap fun (e, s) => s.payload?.map fun p => (e, p)
    match ← inputOf n t sources with
    | .ok input => proceed env n input incoming
    | .error (.crashed m) => throw (.crashed m)
    | .error (.failed cause) =>
      Sim.store (.input n.id) (← rawInput n sources)
      let o ← finishTiming env n (.failed n.id cause)
      conclude env n o incoming

/-- Visit a node. -/
def visit (env : Env) (n : Node) : Sim Unit := do
  let t ← Sim.typeOf env n
  if t.category == .input then
    proceed env n (.ofValue (Place.input n.id).site env.input) (.active (.input n.id) none)
  else visitInner env n t

end IntegrationFlow.Run
