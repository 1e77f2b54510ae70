import IntegrationFlow.Run.State
import IntegrationFlow.Simulation.Backoff
import IntegrationFlow.Template

/-!
# What nodes do

`work` carries out a node of any kind but an error handler: it gives the node's output or its failure, and says through
which outputs it leaves and how long it took. Calls are only simulated; whether one fails is a matter of the
configuration.
-/

namespace IntegrationFlow.Run

open Simulation

/-- The outputs through which a node leaves. -/
inductive Exits where
  /-- Those that fit the result: the error outputs when it is a failure, else all others. -/
  | fitting
  /-- A single one. -/
  | only (port : String)
  /-- Those whose ids a value contains. -/
  | within (c : Cell)

/-- What a node has done. -/
structure NodeOutcome where
  /-- The output, or the failure. -/
  result : Except Failure Cell
  exits : Exits := .fitting
  /-- How long it took; when it is not said, as long as nodes of its type take. -/
  duration? : Option Int := none
  retryCount : Nat := 0
  called? : Option (Value × Value) := none
  /-- The failure that came in goes no further. -/
  absorbed : Bool := false

namespace NodeOutcome

/-- A node has failed. -/
def failed (node : String) (cause : FailureCause) : NodeOutcome :=
  { result := .error ⟨cause, node⟩ }

/-- The failure, when there is one. -/
def failure? (o : NodeOutcome) : Option Failure :=
  match o.result with
  | .error f => some f
  | .ok _ => none

end NodeOutcome

/-- The outcome of a computation on values; mishaps end the run. -/
def settle (node : String) (r : Outcome NodeOutcome) : Sim NodeOutcome :=
  match r with
  | .ok o => pure o
  | .error (.failed cause) => pure (.failed node cause)
  | .error (.crashed m) => throw (.crashed m)

/-- The cell at a path. -/
def atPath (c : Cell) (path : String) : Outcome (Option Cell) :=
  match c.resolve path with
  | .ok c => .ok (some c)
  | .error .missing => .ok none
  | .error .tooLong => .error (.crashed .badValue)

/-- The scope of the expressions of a node. -/
def nodeScope (input : Cell) : Expression.Scope :=
  [("input", input), ("value", input)]

/-- The name that a key is, when it is one. -/
def nameOf? : CellKey → Option String
  | .atom _ (.text ps) => (Text.chars? ps).map String.ofList
  | _ => none

/-- The scope of the template of a node: the fields of its input are names, too. -/
def templateScope (input : Cell) : Expression.Scope :=
  nodeScope input ++ ((input.entries?).getD []).filterMap fun e => (nameOf? e.1).map fun name => (name, e.2)

/-- Transform an input. -/
def transform (c : TransformConfig) (b : Birth) (input : Cell) : Outcome NodeOutcome :=
  if c.transformType == "template" then
    match Template.renderCell (templateScope input) b c.code with
    | .ok output => .ok { result := .ok output }
    | .error stop => .error (.ofStop stop)
  else if c.transformType == "jsonpath" then
    match atPath input c.code with
    | .ok (some found) => .ok { result := .ok (found.copy b) }
    | .ok none => .error (.failed (.noSuchPath c.code))
    | .error halt => .error halt
  else
    match Expression.evaluate (nodeScope input) b c.code with
    | .ok output => .ok { result := .ok output }
    | .error stop => .error (.ofStop stop)

/-- Whether the condition of a node holds of an input. -/
def holds (c : ConditionConfig) (b : Birth) (input : Cell) : Outcome Bool :=
  if c.conditionType == "jsonpath" then
    match atPath input c.condition with
    | .ok (some found) => .ok found.truthy
    | .ok none => .ok false
    | .error halt => .error halt
  else
    match Expression.evaluate (nodeScope input) b c.condition with
    | .ok found => .ok found.truthy
    | .error stop => .error (.ofStop stop)

/-- Choose between the two outputs of a condition. -/
def choose (c : ConditionConfig) (b : Birth) (input : Cell) : Outcome NodeOutcome :=
  match holds c b input with
  | .ok t => .ok { result := .ok input, exits := .only (if t then "true" else "false") }
  | .error halt => .error halt

/-- What a configuration gives for a field; null when it gives nothing. -/
def setting (n : Node) (field : String) : Value :=
  (Entries.field? field n.data.config).getD .null

/-- A setting as a part of a name. -/
def settingText (n : Node) (field : String) : String :=
  match Entries.field? field n.data.config with
  | some v => (v.str?).getD ""
  | none => ""

/-- The name of the circuit through which a node makes its calls: that of its target, or its own id. -/
def circuitName (n : Node) : String :=
  if n.type == Kind.connector.name && (setting n "connectorId").truthy then
    settingText n "connectorId" ++ "/" ++ settingText n "endpointId"
  else if n.type == Kind.serviceCall.name && (setting n "serviceName").truthy then
    settingText n "serviceName" ++ "." ++ settingText n "methodName"
  else n.id

/-- What the configuration of a node holds under a field, as an object of its own. -/
def settingCell (n : Node) (field : String) (v : Value) : Cell :=
  .ofValue [.name field, .name n.id, .name "config"] v

/-- An object with some fields. -/
def objectOf (b : Birth) (fields : List (String × Cell)) : Cell :=
  b.object (fields.map fun f => (.ofString f.1, f.2))

/-- The answer to a call of an endpoint. -/
def connectorAnswer (n : Node) (c : OutboundConfig) (b : Birth) (input : Cell) : Cell :=
  let given (field : String) := settingCell n field (setting n field)
  match c.mockResponse with
  | .null =>
    objectOf b [("status", .atom .only (.int 200)), ("connectorId", given "connectorId"),
      ("endpointId", given "endpointId"), ("data", input.copy b)]
  | mock => (settingCell n "mockResponse" mock).copy b

/-- The answer to a call of a service. An asynchronous call is only accepted. -/
def serviceAnswer (n : Node) (c : OutboundConfig) (b : Birth) (input : Cell) : Cell :=
  let given (field : String) := settingCell n field (setting n field)
  match c.mockResponse with
  | .null =>
    if (setting n "async").truthy then
      objectOf b [("accepted", .atom .only (.bool true)), ("service", given "serviceName"), ("method", given "methodName")]
    else objectOf b [("service", given "serviceName"), ("method", given "methodName"), ("result", input.copy b)]
  | mock => (settingCell n "mockResponse" mock).copy b

/-- A call through a circuit. -/
structure OutboundCall where
  node : Node
  config : OutboundConfig
  circuit : String

namespace OutboundCall

/-- The attempt with a number is to fail. -/
def isFailing (c : OutboundCall) (number : Nat) : Bool :=
  c.config.failureMode != "none" && c.config.failAttempts.all (number ≤ ·)

/-- An attempt runs into the time limit. -/
def timesOut (c : OutboundCall) (failing : Bool) (latency : Int) : Bool :=
  (failing && c.config.failureMode == "timeout") || (c.config.timeout > 0 && latency > c.config.timeout)

/-- How long a caller waits for an attempt that runs into the time limit. -/
def waitingTime (c : OutboundCall) (latency : Int) : Int :=
  if c.config.timeout > 0 then c.config.timeout else latency

/-- Change the breaker of the call, when it has one. -/
def updateBreaker (c : OutboundCall) (change : BreakerPolicy → Nat → Breaker → Breaker) : Sim Unit :=
  if c.config.circuitBreaker then
    modify fun s => { s with breakers := s.breakers.update c.circuit (change s.breakers.policy s.clock.now) }
  else pure ()

/-- The breaker of the call is open; a call without a breaker has none that could be. -/
def isOpen (c : OutboundCall) : Sim Bool :=
  return c.config.circuitBreaker && ((← get).breakers.get c.circuit).state == .opened

/-- Ask the breaker of the call whether an attempt may be made. -/
def allowed (c : OutboundCall) : Sim Bool := do
  if c.config.circuitBreaker then
    let s ← get
    let passes := (s.breakers.get c.circuit).allows s.breakers.policy s.clock.now
    c.updateBreaker fun policy now => Breaker.ask policy now
    return passes
  else return true

/-- Tell the breaker of the call that an attempt has failed, and publish when that has opened it. -/
def reportFailure (c : OutboundCall) (env : Env) : Sim Unit := do
  let wasOpen ← c.isOpen
  c.updateBreaker fun policy now => Breaker.fail policy now
  if !wasOpen && (← c.isOpen) then
    Sim.publish env (.circuitOpened env.flow.id env.execution c.node.id c.circuit)
  else pure ()

/-- Make one attempt; it takes the time that is given with it. -/
def attempt (c : OutboundCall) (env : Env) : Sim (Int × Option FailureCause) := do
  let number ← Sim.nextAttempt c.node.id
  let latency ← Sim.durationOf env c.node
  let failing := c.isFailing number
  if c.timesOut failing latency then
    let waited := c.waitingTime latency
    Sim.suspend env waited
    c.reportFailure env
    return (waited, some (.timedOut c.circuit waited))
  else
    Sim.suspend env latency
    if failing then
      c.reportFailure env
      return (latency, some (.callFailed c.circuit))
    else
      c.updateBreaker fun _ _ => Breaker.succeed
      return (latency, none)

/-- How a call has ended. -/
structure Report where
  elapsed : Int
  retryCount : Nat
  failure? : Option FailureCause

/-- Wait before a retry; the first attempt is none. -/
def beforeAttempt (c : OutboundCall) (env : Env) (number : Nat) (last? : Option FailureCause) : Sim Nat := do
  if number = 0 then return 0
  else
    let delay := backoffDelay c.config.backoffStrategy c.config.backoffMs number
    Sim.suspend env delay
    Sim.publish env (.nodeRetry env.flow.id env.execution c.node.id (.int number)
      (.text ((last?.map (·.message)).getD "None")))
    return delay

/-- Make at most so many more attempts, until one succeeds or the circuit is open. -/
def attempts (c : OutboundCall) (env : Env) : Nat → Nat → Int → Option FailureCause → Sim Report
  | 0, number, elapsed, last? => return ⟨elapsed, number - 1, last?⟩
  | remaining + 1, number, elapsed, last? => do
    let delay ← c.beforeAttempt env number last?
    if ← c.allowed then
      let (taken, failure?) ← c.attempt env
      match failure? with
      | none => return ⟨elapsed + delay + taken, number, none⟩
      | some cause => c.attempts env remaining (number + 1) (elapsed + delay + taken) (some cause)
    else return ⟨elapsed + delay, number, some (.circuitOpen c.circuit)⟩

/-- Make the call, with as many retries as the configuration allows. -/
def run (c : OutboundCall) (env : Env) : Sim Report :=
  c.attempts env (c.config.retries + 1) 0 0 none

/-- Make the call, and give the answer when it succeeds. -/
def outcome (c : OutboundCall) (env : Env) (answer : Cell) (called? : Option (Value × Value)) : Sim NodeOutcome := do
  let report ← c.run env
  return {
    result := match report.failure? with
      | some cause => .error ⟨cause, c.node.id⟩
      | none => .ok answer
    duration? := some report.elapsed
    retryCount := report.retryCount
    called? := called? }

end OutboundCall

/-- Query a database. Whatever is not a selection reports one affected row. -/
def query (env : Env) (n : Node) (c : DatabaseConfig) (b : Birth) (input : Cell) : Sim NodeOutcome := do
  let duration ← Sim.durationOf env n
  Sim.suspend env duration
  if c.failureMode == "error" then
    return { NodeOutcome.failed n.id (.queryFailed c.table) with duration? := some duration }
  else
    let operation := Text.upper c.operation
    let output :=
      if operation == "SELECT" then (settingCell n "mockRows" (.list (c.mockRows.getD []))).copy b
      else
        objectOf b [("operation", (b.part 0).atom (.ofString operation)), ("table", settingCell n "table" (.text c.table)),
          ("dataSource", settingCell n "dataSource" (.text c.dataSource)), ("rowsAffected", .atom .only (.int 1)),
          ("parameters", input)]
    return { result := .ok output, duration? := some duration }

/-- The outputs that an input names; null names none in particular. -/
def exitsNamed (input : Cell) : Except Expression.Mishap Exits :=
  match input.entries? with
  | none => .error .wrongKind
  | some entries =>
    match entries.field? "ports" with
    | some (.atom _ .null) => .ok .fitting
    | some c => .ok (.within c)
    | none => .error .missingKey

/-- Carry out a node whose type is not built in. -/
def behave (n : Node) (input : Cell) : Behaviour → Sim NodeOutcome
  | .passthrough => return { result := .ok input }
  | .fail => return .failed n.id .customFailed
  | .fault => Sim.fault .custom
  | .ports => do
    let exits ← Sim.ofMishap (exitsNamed input)
    return { result := .ok input, exits, duration? := some 7 }
  | .illegal => do
    Sim.transition .running
    return { result := .ok input }

/-- Carry out a node of a built-in kind that is no error handler. A handler hands its input on here. What the node makes
arises with a birth. -/
def work (env : Env) (n : Node) (config : Config) (b : Birth) (input : Cell) : Sim NodeOutcome :=
  match config with
  | .transform c => settle n.id (transform c b input)
  | .condition c => settle n.id (choose c b input)
  | .connector c =>
    OutboundCall.outcome ⟨n, c.outbound, circuitName n⟩ env (connectorAnswer n c.outbound b input)
      (some (setting n "connectorId", setting n "endpointId"))
  | .serviceCall c => OutboundCall.outcome ⟨n, c.outbound, circuitName n⟩ env (serviceAnswer n c.outbound b input) none
  | .database c => query env n c b input
  | .ingress _ => return { result := .ok input }
  | .serviceBox _ => return { result := .ok input }
  | .errorHandler _ => return { result := .ok input }

end IntegrationFlow.Run
