import IntegrationFlow.Value.Equality
import IntegrationFlow.Time.Timestamp

/-!
# Events

What is published about the runs of flows while they go on.
-/

namespace IntegrationFlow

/-- The types of events. -/
inductive EventType where
  | runStarted
  | runCompleted
  | runFailed
  | runCancelled
  | stepRecorded
  | nodeRetry
  | circuitOpened
  | engineFault
deriving DecidableEq

namespace EventType

/-- The names of the types. -/
def names : List (String × EventType) :=
  [("run_started", .runStarted), ("run_completed", .runCompleted), ("run_failed", .runFailed),
    ("run_cancelled", .runCancelled), ("step_recorded", .stepRecorded), ("node_retry", .nodeRetry),
    ("circuit_opened", .circuitOpened), ("engine_fault", .engineFault)]

/-- The name of a type. -/
def name : EventType → String
  | .runStarted => "run_started"
  | .runCompleted => "run_completed"
  | .runFailed => "run_failed"
  | .runCancelled => "run_cancelled"
  | .stepRecorded => "step_recorded"
  | .nodeRetry => "node_retry"
  | .circuitOpened => "circuit_opened"
  | .engineFault => "engine_fault"

/-- The type with a name. -/
def ofName? (s : String) : Option EventType :=
  names.lookup s

/-- A name stands for its type. -/
theorem ofName?_name (t : EventType) : ofName? t.name = some t := by
  cases t <;> rfl

/-- The last event of a run that ends with a status; an unknown status counts as a failure. -/
def terminal (status : String) : EventType :=
  if status == "success" then .runCompleted else if status == "cancelled" then .runCancelled else .runFailed

end EventType

/-- An event. -/
structure Event where
  type : EventType
  flow : String
  execution? : Option String := none
  node? : Option String := none
  data : Value := .object []

namespace Event

/-- A run has begun with an input. -/
def runStarted (flow execution : String) (input : Value) : Event :=
  ⟨.runStarted, flow, some execution, none, .ofFields [("input", input)]⟩

/-- A step was recorded; the step names its node. -/
def stepRecorded (flow execution : String) (step : Value) : Event :=
  ⟨.stepRecorded, flow, some execution,
    (step.entries?.bind (Entries.field? "nodeId")).bind Value.text?, step⟩

/-- A node is tried again after an error. -/
def nodeRetry (flow execution node : String) (attempt : Value) (error : Value) : Event :=
  ⟨.nodeRetry, flow, some execution, some node, .ofFields [("retry_count", attempt), ("error", error)]⟩

/-- A node has opened a circuit. -/
def circuitOpened (flow execution node circuit : String) : Event :=
  ⟨.circuitOpened, flow, some execution, some node, .ofFields [("circuit", .text circuit)]⟩

/-- A run has ended with a status. -/
def runFinished (flow execution status : String) (duration : Value) (error : Value) : Event :=
  ⟨.terminal status, flow, some execution, none,
    .ofFields [("status", .text status), ("duration_ms", duration), ("error", error)]⟩

/-- The engine has met a fault. -/
def engineFault (flow execution fault : String) : Event :=
  ⟨.engineFault, flow, some execution, none, .ofFields [("fault", .text fault)]⟩

end Event

end IntegrationFlow
