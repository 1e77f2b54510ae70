import IntegrationFlow.Failure
import IntegrationFlow.Flow.Document

/-!
# Traces

The record of a run: one step for every node that was visited, and one more for every time a handler tried a node
again, in the order in which they happened.
-/

namespace IntegrationFlow.Run

/-- The status of a run. -/
inductive RunStatus where
  | pending
  | running
  | success
  | error
  | cancelled
deriving DecidableEq

namespace RunStatus

/-- The name of a status. -/
def name : RunStatus → String
  | .pending => "pending"
  | .running => "running"
  | .success => "success"
  | .error => "error"
  | .cancelled => "cancelled"

/-- A run does not leave the status. -/
def isTerminal : RunStatus → Bool
  | .pending => false
  | .running => false
  | _ => true

/-- A run may go from the first status to the second one. -/
def allows : RunStatus → RunStatus → Bool
  | .pending, .running => true
  | .running, s => s.isTerminal
  | _, _ => false

end RunStatus

/-- The status of a step. -/
inductive StepStatus where
  | success
  | error
  | skipped
deriving DecidableEq

/-- The name of a status. -/
def StepStatus.name : StepStatus → String
  | .success => "success"
  | .error => "error"
  | .skipped => "skipped"

/-- A simulated request and the response to it. -/
structure Exchange where
  request : Value
  response : Value

/-- The exchange as a value. -/
def Exchange.toValue (x : Exchange) : Value :=
  .ofFields [("request", x.request), ("response", x.response)]

/-- What happened when a node was visited. -/
structure Step where
  node : String
  type : String
  status : StepStatus
  input : Value := .null
  output : Value := .null
  error? : Option Failure := none
  duration : Int := 0
  retryCount : Nat := 0
  exchange? : Option Exchange := none

/-- The step as a value. -/
def Step.toValue (s : Step) : Value :=
  .ofFields [("nodeId", .text s.node), ("nodeType", .text s.type), ("status", .text s.status.name), ("input", s.input),
    ("output", s.output), ("error", (s.error?.map Failure.toValue).getD .null), ("durationMs", .int s.duration),
    ("retryCount", .int s.retryCount), ("httpTrace", (s.exchange?.map Exchange.toValue).getD .null)]

/-- No value is written that has as many levels. -/
def maxLevels : Nat := 255

/-- The values in a step. -/
def Step.values (s : Step) : List Value :=
  s.input :: s.output :: (s.exchange?.map fun x => [x.request, x.response]).getD []

/-- A value in a step is nested too deeply to be written. -/
def Step.isTooDeep (s : Step) : Bool :=
  s.values.any fun v => maxLevels ≤ v.levels

/-- The step as JSON holds it. -/
def Step.toJson (s : Step) : Except Json.Unwritable Value :=
  if s.isTooDeep then .error .tooDeep else Json.plain s.toValue

/-- The record of a run. -/
structure Trace where
  flow : String
  execution : String
  status : RunStatus
  duration : Nat
  steps : List Step
  error? : Option String := none
  /-- Why the engine could not go on. -/
  fault? : Option String := none

namespace Trace

/-- The trace as a value. -/
def toValue (t : Trace) : Value :=
  .ofFields [("flowId", .text t.flow), ("executionId", .text t.execution), ("status", .text t.status.name),
    ("durationMs", .int t.duration), ("steps", .list (t.steps.map Step.toValue)), ("error", optionalText t.error?),
    ("fault", optionalText t.fault?), ("stepCount", .int t.steps.length)]

/-- The trace as JSON holds it, when it can be written. -/
def toJson (t : Trace) : Except Json.Unwritable Value :=
  if t.steps.any Step.isTooDeep then .error .tooDeep else Json.writable t.toValue

/-- The steps of a node. -/
def stepsOf (t : Trace) (node : String) : List Step :=
  t.steps.filter (·.node == node)

/-- The nodes that were executed, in order. -/
def visited (t : Trace) : List String :=
  (t.steps.filter (·.status != .skipped)).map (·.node)

end Trace

end IntegrationFlow.Run
