import IntegrationFlow.GraphError
import IntegrationFlow.Flow.Reachability
import IntegrationFlow.Flow.Cycle

/-!
# Checking flows

`checkStructure` makes the checks that every stored flow passes: distinct ids, known types, edges between existing ports
that go together, no connection made twice. `check` adds what a run relies on: one ingress without inbound edges, no
cycles, complete configurations, and an edge on every output that can be chosen.
-/

namespace IntegrationFlow.Validator

/-- Duplicate ids and unknown types, node by node, after the ids that were seen. -/
def nodeFindings (r : Registry) : List String → List Node → List Finding
  | _, [] => []
  | seen, n :: ns =>
    (if seen.contains n.id then [.duplicateNode n.id] else []) ++
      (if r.contains n.type then [] else [.unknownType n.id n.type]) ++ nodeFindings r (n.id :: seen) ns

/-- What is wrong with the ports of an edge between two nodes. -/
def portFindings (e : Edge) (source target : Node) : List Finding :=
  match source.output? e.sourcePort?, target.input? e.targetPort? with
  | some out, some inn => if isAssignable out.type inn.type then [] else [.unassignable e.id out.type inn.type]
  | _, _ => [.unknownPort e.id]

/-- The edges that were seen: their ids, and the connections between existing nodes with the edge that makes them. -/
structure SeenEdges where
  ids : List String := []
  keys : List (EdgeKey × String) := []

/-- Duplicate ids, missing nodes, unfit ports and duplicate connections, edge by edge. -/
def edgeFindings (f : Flow) : SeenEdges → List Edge → List Finding
  | _, [] => []
  | seen, e :: es =>
    let repeated : List Finding := if seen.ids.contains e.id then [.duplicateEdgeId e.id] else []
    let seen := { seen with ids := e.id :: seen.ids }
    match f.node? e.source, f.node? e.target with
    | none, _ => repeated ++ .danglingEdge e.id e.source :: edgeFindings f seen es
    | some _, none => repeated ++ .danglingEdge e.id e.target :: edgeFindings f seen es
    | some source, some target =>
      match seen.keys.lookup (f.edgeKey e) with
      | some earlier =>
        repeated ++ portFindings e source target ++ .duplicateConnection e.id earlier :: edgeFindings f seen es
      | none =>
        repeated ++ portFindings e source target ++
          edgeFindings f { seen with keys := (f.edgeKey e, e.id) :: seen.keys } es

/-- The nodes that are entry points. -/
def ingressNodes (r : Registry) (f : Flow) : List Node :=
  f.nodes.filter r.isIngress

/-- Missing and additional entry points, and edges that lead to the first one. -/
def ingressFindings (r : Registry) (f : Flow) : List Finding :=
  match ingressNodes r f with
  | [] => [.noIngress]
  | first :: others =>
    others.map (fun n => .extraIngress n.id) ++ (f.incoming first.id).map fun e => .edgeIntoIngress first.id e.id

/-- The nodes to which no edges lead from the first entry point. -/
def reachabilityFindings (r : Registry) (f : Flow) : List Finding :=
  match ingressNodes r f with
  | [] => []
  | first :: _ =>
    let reached := f.reachable first.id
    (f.nodes.filter fun n => !reached.contains n.id).map fun n => .unreachable n.id

/-- The edges that close cycles. -/
def cycleFindings (f : Flow) : List Finding :=
  f.closingEdges.map fun e => .cycle e.id e.target

/-- What is wrong with the configurations of the nodes of known types. -/
def configFindings (r : Registry) (f : Flow) : List Finding :=
  f.nodes.flatMap fun n =>
    match r.find? n.type with
    | none => []
    | some t => (t.configProblems n.data.config).map (.badConfig n.id)

/-- An edge leaves the node through the output. -/
def isWired (f : Flow) (n : Node) (port : String) : Bool :=
  (f.outgoing n.id).any fun e => (n.output? e.sourcePort?).any (·.id == port)

/-- The outputs that can be chosen and lead nowhere. -/
def branchFindings (r : Registry) (f : Flow) : List Finding :=
  f.nodes.flatMap fun n =>
    match r.find? n.type with
    | none => []
    | some t => if t.isBranch then (t.branchPorts.filter fun p => !isWired f n p).map (.openBranch n.id) else []

/-- The checks that every stored flow passes. -/
def checkStructure (r : Registry) (f : Flow) : List Finding :=
  nodeFindings r [] f.nodes ++ edgeFindings f {} f.edges

/-- All checks. -/
def check (r : Registry) (f : Flow) : List Finding :=
  checkStructure r f ++ ingressFindings r f ++ reachabilityFindings r f ++ cycleFindings f ++ configFindings r f ++
    branchFindings r f

/-- The findings of a flow without errors, or the refusal of one with errors. -/
def ensureValid (r : Registry) (f : Flow) : Except GraphError (List Finding) :=
  match refusal? (check r f) with
  | some e => .error e
  | none => .ok (check r f)

/-- A flow is accepted exactly when no check finds an error in it. -/
theorem ensureValid_isOk_iff {r : Registry} {f : Flow} :
    (∃ findings, ensureValid r f = .ok findings) ↔ ∀ x ∈ check r f, x.isError = false := by
  rw [← refusal?_eq_none_iff]
  unfold ensureValid
  cases refusal? (check r f) <;> simp

end IntegrationFlow.Validator

namespace IntegrationFlow.Flow

/-- Read a flow document and check its structure. -/
def importText (r : Registry) (now : Time.Timestamp) (document : String) : Except GraphError Flow :=
  match parse now document with
  | .refused problems => .error (.badDocument problems)
  | .fits f =>
    match refusal? (Validator.checkStructure r f) with
    | some e => .error e
    | none => .ok f

end IntegrationFlow.Flow
