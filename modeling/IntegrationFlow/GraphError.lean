import IntegrationFlow.Finding

/-!
# Refusals

Why a flow, or a change to one, is refused. `GraphError.message` words each cause.
-/

namespace IntegrationFlow

/-- A cause for which a flow or a change to one is refused. -/
inductive GraphError where
  /-- Checks found errors, of which `first` is the first one and `others` counts the rest. -/
  | invalid (first : Finding) (others : Nat) (findings : List Finding)
  | badDocument (problems : List Schema.Problem)
  | unknownType (type : String)
  | untypedConfig (type : String)
  | unfitConfig (type : String) (problems : List Schema.Problem)
  | nodeNotFound (node : String)
  | edgeNotFound (edge : String)
  | flowNotFound (flow : String)
  | secondIngress (node : String)
  | ingressCopy (node : String)
  | missingEndpoint (node : String)
  | edgeIntoIngress (node : String)
  | noOutput (node port : String)
  | noInput (node port : String)
  | unassignable (source sourcePort sourceType target targetPort targetType : String)
  | duplicateConnection (source sourcePort target targetPort existing : String)
  | badConfig (node : String) (problems : List ConfigProblem)
  | unknownEdgeData (edge : String) (keys : List String)
  | badEdgeData (edge : String) (problems : List Schema.Problem)

namespace GraphError

/-- The code of an error. -/
def code : GraphError → String
  | .invalid first _ _ => first.code
  | .badDocument _ => "InvalidFlowDocument"
  | .unknownType _ => "UnknownNodeType"
  | .untypedConfig _ => "InvalidConfig"
  | .unfitConfig _ _ => "InvalidConfig"
  | .nodeNotFound _ => "NodeNotFound"
  | .edgeNotFound _ => "EdgeNotFound"
  | .flowNotFound _ => "FlowNotFound"
  | .secondIngress _ => "DuplicateIngress"
  | .ingressCopy _ => "DuplicateIngress"
  | .missingEndpoint _ => "DanglingReference"
  | .edgeIntoIngress _ => "IncompatiblePort"
  | .noOutput _ _ => "IncompatiblePort"
  | .noInput _ _ => "IncompatiblePort"
  | .unassignable _ _ _ _ _ _ => "IncompatiblePort"
  | .duplicateConnection _ _ _ _ _ => "DuplicateEdge"
  | .badConfig _ _ => "InvalidConfig"
  | .unknownEdgeData _ _ => "InvalidConfig"
  | .badEdgeData _ _ => "InvalidConfig"

/-- The wording of an error. -/
def message : GraphError → String
  | .invalid first others _ =>
    first.message ++ if others = 0 then "" else " (and " ++ toString others ++ " more error(s))"
  | .badDocument problems => "Invalid flow document: " ++ toString problems.length ++ " problem(s)"
  | .unknownType type => "Unknown node type '" ++ type ++ "'"
  | .untypedConfig type => "Node type '" ++ type ++ "' has no config model"
  | .unfitConfig type _ => "Invalid config for '" ++ type ++ "'"
  | .nodeNotFound node => "Node '" ++ node ++ "' not found"
  | .edgeNotFound edge => "Edge '" ++ edge ++ "' not found"
  | .flowNotFound flow => "Flow '" ++ flow ++ "' not found"
  | .secondIngress node => "Flow already has an ingress node '" ++ node ++ "'"
  | .ingressCopy _ => "The ingress node cannot be duplicated"
  | .missingEndpoint node => "Node '" ++ node ++ "' does not exist"
  | .edgeIntoIngress node => "Ingress node '" ++ node ++ "' cannot have inbound edges"
  | .noOutput node port => "Node '" ++ node ++ "' has no output port '" ++ port ++ "'"
  | .noInput node port => "Node '" ++ node ++ "' has no input port '" ++ port ++ "'"
  | .unassignable source sourcePort sourceType target targetPort targetType =>
    "Port '" ++ source ++ "." ++ sourcePort ++ "' (" ++ sourceType ++ ") is not assignable to '" ++ target ++ "." ++
      targetPort ++ "' (" ++ targetType ++ ")"
  | .duplicateConnection source sourcePort target targetPort _ =>
    "Edge " ++ source ++ "." ++ sourcePort ++ " -> " ++ target ++ "." ++ targetPort ++ " already exists"
  | .badConfig _ problems => "; ".intercalate (problems.map (·.message))
  | .unknownEdgeData _ keys => "Unknown edge data keys: " ++ bracketed "[" "]" (keys.map quoteText)
  | .badEdgeData _ _ => "Invalid edge data"

/-- The node that an error is about. -/
def node? : GraphError → Option String
  | .invalid first _ _ => first.node?
  | .nodeNotFound node => some node
  | .ingressCopy node => some node
  | .missingEndpoint node => some node
  | .edgeIntoIngress node => some node
  | .noOutput node _ => some node
  | .noInput node _ => some node
  | .badConfig node _ => some node
  | _ => none

/-- The edge that an error is about. -/
def edge? : GraphError → Option String
  | .invalid first _ _ => first.edge?
  | .edgeNotFound edge => some edge
  | .duplicateConnection _ _ _ _ existing => some existing
  | .unknownEdgeData edge _ => some edge
  | .badEdgeData edge _ => some edge
  | _ => none

/-- The findings for which a flow is refused. -/
def findings : GraphError → List Finding
  | .invalid _ _ findings => findings
  | _ => []

/-- The problems of the document that is refused. -/
def problems : GraphError → List Schema.Problem
  | .badDocument problems => problems
  | .unfitConfig _ problems => problems
  | .badEdgeData _ problems => problems
  | _ => []

/-- The error as a value. -/
def toValue (e : GraphError) : Value :=
  .ofFields [("code", .text e.code), ("message", .text e.message), ("nodeId", optionalText e.node?),
    ("edgeId", optionalText e.edge?), ("diagnostics", .list (e.findings.map Finding.toValue))]

end GraphError

/-- The error for findings of which at least one is an error. -/
def refusal? (findings : List Finding) : Option GraphError :=
  match findings.filter (·.isError) with
  | [] => none
  | first :: others => some (.invalid first others.length findings)

/-- Findings are refused exactly when one of them is an error. -/
theorem refusal?_eq_none_iff {findings : List Finding} :
    refusal? findings = none ↔ ∀ f ∈ findings, f.isError = false := by
  unfold refusal?
  split
  · next h => simpa [List.filter_eq_nil_iff] using h
  · next first others h =>
    have : first ∈ findings.filter (·.isError) := by simp [h]
    simp only [List.mem_filter] at this
    simp only [reduceCtorEq, false_iff]
    intro clean
    simp [clean first this.1] at this

namespace Registry

/-- The node type with a name, or the error that there is none. -/
def lookup (r : Registry) (type : String) : Except GraphError NodeType :=
  match r.find? type with
  | some t => .ok t
  | none => .error (.unknownType type)

/-- Read the configuration of a node of a type. -/
def readConfig (r : Registry) (type : String) (config : Entries) : Except GraphError Config :=
  match r.lookup type with
  | .error e => .error e
  | .ok t =>
    match t.kind? with
    | none => .error (.untypedConfig type)
    | some k =>
      match k.read config with
      | .fits c => .ok c
      | .refused problems => .error (.unfitConfig type problems)

end Registry

end IntegrationFlow
