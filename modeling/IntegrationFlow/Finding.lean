import IntegrationFlow.NodeType.Check

/-!
# Findings

What the checks find in a flow. A finding is an error or, for parts that are never reached, a warning; flows with
errors are not run.
-/

namespace IntegrationFlow

/-- How much a finding matters. -/
inductive Severity where
  | error
  | warning
deriving DecidableEq

/-- The name of a severity. -/
def Severity.name : Severity → String
  | .error => "error"
  | .warning => "warning"

/-- Something that a check has found. -/
inductive Finding where
  /-- A later node has the id of an earlier one. -/
  | duplicateNode (node : String)
  /-- A node is of a type that is not registered. -/
  | unknownType (node type : String)
  /-- A later edge has the id of an earlier one. -/
  | duplicateEdgeId (edge : String)
  /-- An edge names a node that does not exist. -/
  | danglingEdge (edge missing : String)
  /-- An edge names a port that its node does not have. -/
  | unknownPort (edge : String)
  /-- The ports of an edge do not go together. -/
  | unassignable (edge sourceType targetType : String)
  /-- An edge makes the connection that an earlier one makes. -/
  | duplicateConnection (edge earlier : String)
  | noIngress
  | extraIngress (node : String)
  /-- An edge leads to the ingress. -/
  | edgeIntoIngress (ingress edge : String)
  | unreachable (node : String)
  /-- An edge leads back to a node through which it was reached. -/
  | cycle (edge node : String)
  | badConfig (node : String) (problem : ConfigProblem)
  /-- An output that can be chosen leads nowhere. -/
  | openBranch (node port : String)
deriving DecidableEq

namespace Finding

/-- The severity of a finding. -/
def severity : Finding → Severity
  | .unreachable _ => .warning
  | _ => .error

/-- The finding is an error. -/
def isError (f : Finding) : Bool :=
  f.severity == .error

/-- The code of a finding. -/
def code : Finding → String
  | .duplicateNode _ => "DuplicateNodeId"
  | .unknownType _ _ => "UnknownNodeType"
  | .duplicateEdgeId _ => "DuplicateEdge"
  | .danglingEdge _ _ => "DanglingReference"
  | .unknownPort _ => "IncompatiblePort"
  | .unassignable _ _ _ => "IncompatiblePort"
  | .duplicateConnection _ _ => "DuplicateEdge"
  | .noIngress => "MissingIngress"
  | .extraIngress _ => "DuplicateIngress"
  | .edgeIntoIngress _ _ => "IncompatiblePort"
  | .unreachable _ => "UnreachableNode"
  | .cycle _ _ => "CycleDetected"
  | .badConfig _ _ => "InvalidConfig"
  | .openBranch _ _ => "IncompleteBranch"

/-- The wording of a finding. -/
def message : Finding → String
  | .duplicateNode node => "Duplicate node id '" ++ node ++ "'"
  | .unknownType node type => "Node '" ++ node ++ "' has unknown type '" ++ type ++ "'"
  | .duplicateEdgeId edge => "Duplicate edge id '" ++ edge ++ "'"
  | .danglingEdge edge missing => "Edge '" ++ edge ++ "' references missing node '" ++ missing ++ "'"
  | .unknownPort edge => "Edge '" ++ edge ++ "' references an unknown port"
  | .unassignable edge source target => "Edge '" ++ edge ++ "': " ++ source ++ " is not assignable to " ++ target
  | .duplicateConnection edge earlier => "Edge '" ++ edge ++ "' duplicates edge '" ++ earlier ++ "'"
  | .noIngress => "Flow has no ingress node"
  | .extraIngress node => "Flow has more than one ingress node: '" ++ node ++ "'"
  | .edgeIntoIngress ingress edge => "Ingress node '" ++ ingress ++ "' has inbound edge '" ++ edge ++ "'"
  | .unreachable node => "Node '" ++ node ++ "' is unreachable from the ingress"
  | .cycle edge node => "Edge '" ++ edge ++ "' closes a cycle at node '" ++ node ++ "'"
  | .badConfig node problem => "Node '" ++ node ++ "': " ++ problem.message
  | .openBranch node port => "Branch node '" ++ node ++ "' has no edge on output '" ++ port ++ "'"

/-- The node that a finding is about. -/
def node? : Finding → Option String
  | .duplicateNode node => some node
  | .unknownType node _ => some node
  | .extraIngress node => some node
  | .edgeIntoIngress ingress _ => some ingress
  | .unreachable node => some node
  | .cycle _ node => some node
  | .badConfig node _ => some node
  | .openBranch node _ => some node
  | _ => none

/-- The edge that a finding is about. -/
def edge? : Finding → Option String
  | .duplicateEdgeId edge => some edge
  | .danglingEdge edge _ => some edge
  | .unknownPort edge => some edge
  | .unassignable edge _ _ => some edge
  | .duplicateConnection edge _ => some edge
  | .edgeIntoIngress _ edge => some edge
  | .cycle edge _ => some edge
  | _ => none

/-- The finding as a value. -/
def toValue (f : Finding) : Value :=
  .ofFields [("severity", .text f.severity.name), ("code", .text f.code), ("message", .text f.message),
    ("node_id", optionalText f.node?), ("edge_id", optionalText f.edge?)]

end Finding

end IntegrationFlow
