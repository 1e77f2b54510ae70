import IntegrationFlow.NodeType.Config
import IntegrationFlow.Expression.Arithmetic

/-!
# Durations

How long a node takes, in simulated milliseconds: as long as its configuration says, else as long as its type takes.
-/

namespace IntegrationFlow.Simulation

/-- The durations of the built-in types. -/
def builtinDurations : List (String × Int) :=
  [("http-ingress", 1), ("transform", 2), ("condition", 1), ("connector", 50), ("service-call", 20), ("database", 10),
    ("error-handler", 1), ("service-box", 1)]

/-- How long the types of nodes take. -/
structure DurationModel where
  durations : List (String × Int) := builtinDurations
  /-- How long a type takes that is not listed. -/
  other : Int := 1

namespace DurationModel

/-- The built-in durations, some of them replaced. -/
def overriding (durations : List (String × Int)) : DurationModel :=
  ⟨durations ++ builtinDurations, 1⟩

/-- How long a type takes. -/
def ofType (m : DurationModel) (type : String) : Int :=
  (m.durations.lookup type).getD m.other

/-- How long a node takes. A latency that is no finite number is a mishap. -/
def ofNode (m : DurationModel) (n : Node) : Except Expression.Mishap Int :=
  match Entries.field? "simulatedLatencyMs" n.data.config with
  | some (.int ms) => .ok ms
  | some (.float ms) => Expression.truncateFloat ms
  | _ => .ok (m.ofType n.type)

end DurationModel

end IntegrationFlow.Simulation
