import IntegrationFlow.Editor.IdSupply
import IntegrationFlow.Flow.Document
import IntegrationFlow.GraphError
import IntegrationFlow.Validator

/-!
# Edits

An edit is one change that an author makes to a flow. `carryOut` gives the flow after it together with a `Change`
that names the nodes and edges concerned, or the reason why the edit is refused; a refused edit gives no flow, though it
may have used up an id.
-/

namespace IntegrationFlow.Editor

open Schema

/-- What kind of change a flow has seen. -/
inductive ChangeKind where
  | nodeAdded
  | nodeRemoved
  | nodeDuplicated
  | nodeMoved
  | nodeConfigUpdated
  | edgeAdded
  | edgeRemoved
  | edgeDataUpdated
  | flowReplaced
deriving DecidableEq, Inhabited

/-- The name of a kind of change. -/
def ChangeKind.name : ChangeKind → String
  | .nodeAdded => "node_added"
  | .nodeRemoved => "node_removed"
  | .nodeDuplicated => "node_duplicated"
  | .nodeMoved => "node_moved"
  | .nodeConfigUpdated => "node_config_updated"
  | .edgeAdded => "edge_added"
  | .edgeRemoved => "edge_removed"
  | .edgeDataUpdated => "edge_data_updated"
  | .flowReplaced => "flow_replaced"

/-- A change, with the nodes and edges that it concerns. -/
structure Change where
  kind : ChangeKind
  nodes : List String := []
  edges : List String := []
deriving DecidableEq, Inhabited

/-- Why an edit is refused. -/
inductive Refusal where
  /-- The flow does not allow it. -/
  | notAllowed (error : GraphError)
  /-- The position is not one. -/
  | badPosition (problems : List Problem)

/-- A change that an author makes. -/
inductive Edit where
  | addNode (type : String) (position : Value)
  | removeNode (id : String)
  | duplicateNode (id : String)
  | moveNode (id : String) (position : Value)
  | updateNodeConfig (id : String) (changes : Entries)
  | renameNode (id label : String)
  | addEdge (source target : String) (sourcePort? targetPort? : Option String)
  | removeEdge (id : String)
  | updateEdgeData (id : String) (changes : Entries)
  | replaceFlow (flow : Flow)

/-- A step of editing: it may use up ids, and it may be refused. -/
abbrev Editing := ExceptT Refusal (StateM IdSupply)

/-- Refuse the edit. -/
def refuse {α : Type} (error : GraphError) : Editing α :=
  throw (.notAllowed error)

/-- An id that neither a node nor an edge of the flow has. -/
def newId (f : Flow) (stem : String) : Editing String :=
  modifyGetThe IdSupply (·.fresh stem (f.nodeIds ++ f.edgeIds))

/-- The node with an id, which must exist. -/
def needNode (f : Flow) (id : String) : Editing Node :=
  match f.node? id with
  | some n => pure n
  | none => refuse (.nodeNotFound id)

/-- The edge with an id, which must exist. -/
def needEdge (f : Flow) (id : String) : Editing Edge :=
  match f.edge? id with
  | some e => pure e
  | none => refuse (.edgeNotFound id)

/-- The position that a value gives. -/
def needPosition (v : Value) : Editing Position :=
  match Position.read v with
  | .fits p => pure p
  | .refused problems => throw (.badPosition problems)

/-- The flow with a node in place of all nodes with an id. -/
def setNode (f : Flow) (id : String) (n : Node) : Flow :=
  { f with nodes := f.nodes.map fun m => if m.id == id then n else m }

/-- The flow with an edge in place of all edges with an id. -/
def setEdge (f : Flow) (id : String) (e : Edge) : Flow :=
  { f with edges := f.edges.map fun d => if d.id == id then e else d }

/-- The flow with a further node. -/
def withNode (f : Flow) (n : Node) : Flow :=
  { f with nodes := f.nodes ++ [n] }

/-- The flow with a further edge. -/
def withEdge (f : Flow) (e : Edge) : Flow :=
  { f with edges := f.edges ++ [e] }

/-- Add a node of a type. A position that is empty is the origin. -/
def addNode (r : Registry) (f : Flow) (type : String) (position : Value) : Editing (Flow × Change) := do
  match r.lookup type with
  | .error e => refuse e
  | .ok t =>
    match f.nodes.find? r.isIngress with
    | some n => if t.category = .input then refuse (.secondIngress n.id)
    | none => pure ()
    let id ← newId f "node"
    let position ← needPosition (if position.truthy then position else .object [])
    return (withNode f ⟨id, type, position, t.defaultData⟩, ⟨.nodeAdded, [id], []⟩)

/-- Remove a node and every edge that leaves or enters it. -/
def removeNode (f : Flow) (id : String) : Editing (Flow × Change) := do
  let _ ← needNode f id
  let gone := (f.edges.filter fun e => e.source == id || e.target == id).map (·.id)
  let nodes := f.nodes.filter (·.id != id)
  let edges := f.edges.filter fun e => !gone.contains e.id
  return ({ f with nodes, edges }, ⟨.nodeRemoved, [id], gone⟩)

/-- How far from the first node a duplicate is placed, to the right and down. -/
def duplicateOffset : Float := 50.0

/-- Add a copy of a node. Its edges are not copied. -/
def duplicateNode (r : Registry) (f : Flow) (id : String) : Editing (Flow × Change) := do
  let n ← needNode f id
  if r.isIngress n then refuse (.ingressCopy id)
  let copy ← newId f "node"
  let position := ⟨n.position.x + duplicateOffset, n.position.y + duplicateOffset⟩
  return (withNode f ⟨copy, n.type, position, { n.data with label := n.data.label ++ " (Copy)" }⟩,
    ⟨.nodeDuplicated, [id, copy], []⟩)

/-- Move a node. -/
def moveNode (f : Flow) (id : String) (position : Value) : Editing (Flow × Change) := do
  let n ← needNode f id
  let position ← needPosition position
  return (setNode f id { n with position }, ⟨.nodeMoved, [id], []⟩)

/-- Set fields of a node's configuration. -/
def updateNodeConfig (r : Registry) (f : Flow) (id : String) (changes : Entries) : Editing (Flow × Change) := do
  let n ← needNode f id
  match r.lookup n.type with
  | .error e => refuse e
  | .ok t =>
    match t.typeProblems changes with
    | [] =>
      let data := { n.data with config := n.data.config.merge changes }
      return (setNode f id { n with data }, ⟨.nodeConfigUpdated, [id], []⟩)
    | problems => refuse (.badConfig id problems)

/-- Give a node another label. -/
def renameNode (f : Flow) (id label : String) : Editing (Flow × Change) := do
  let n ← needNode f id
  return (setNode f id { n with data := { n.data with label } }, ⟨.nodeConfigUpdated, [id], []⟩)

/-- How a port that is left out is named. -/
def portName (port? : Option String) : String :=
  port?.getD "None"

/-- Connect two nodes. Ports that are left out are the first ones. -/
def addEdge (r : Registry) (f : Flow) (source target : String) (sourcePort? targetPort? : Option String) :
    Editing (Flow × Change) := do
  match f.node? source, f.node? target with
  | none, _ => refuse (.missingEndpoint source)
  | some _, none => refuse (.missingEndpoint target)
  | some s, some t =>
    if r.isIngress t then refuse (.edgeIntoIngress target)
    match s.output? sourcePort?, t.input? targetPort? with
    | none, _ => refuse (.noOutput source (portName sourcePort?))
    | some _, none => refuse (.noInput target (portName targetPort?))
    | some p, some q =>
      if !isAssignable p.type q.type then refuse (.unassignable source p.id p.type target q.id q.type)
      let id ← newId f "edge"
      let e : Edge := { id, source, target, sourcePort? := some p.id, targetPort? := some q.id }
      match f.edges.find? fun d => f.edgeKey d = f.edgeKey e with
      | some d => refuse (.duplicateConnection source p.id target q.id d.id)
      | none => return (withEdge f e, ⟨.edgeAdded, [source, target], [id]⟩)

/-- Remove an edge. -/
def removeEdge (f : Flow) (id : String) : Editing (Flow × Change) := do
  let _ ← needEdge f id
  return ({ f with edges := f.edges.filter (·.id != id) }, ⟨.edgeRemoved, [], [id]⟩)

/-- The fields of an edge's data. -/
def edgeDataFields : List String := ["condition", "mapping"]

/-- Set fields of an edge's data. -/
def updateEdgeData (f : Flow) (id : String) (changes : Entries) : Editing (Flow × Change) := do
  let e ← needEdge f id
  let unknown := changes.filterMap fun c =>
    match c.1 with
    | .text key => if edgeDataFields.contains key then none else some key
    | _ => none
  if !unknown.isEmpty then refuse (.unknownEdgeData id unknown)
  match EdgeData.read (.object (((e.data.toValue.entries?).getD []).merge changes)) with
  | .fits data => return (setEdge f id { e with data }, ⟨.edgeDataUpdated, [], [id]⟩)
  | .refused problems => refuse (.badEdgeData id problems)

/-- What an edit does to a flow, apart from its time of change. -/
def outcome (r : Registry) (f : Flow) : Edit → Editing (Flow × Change)
  | .addNode type position => addNode r f type position
  | .removeNode id => removeNode f id
  | .duplicateNode id => duplicateNode r f id
  | .moveNode id position => moveNode f id position
  | .updateNodeConfig id changes => updateNodeConfig r f id changes
  | .renameNode id label => renameNode f id label
  | .addEdge source target sourcePort? targetPort? => addEdge r f source target sourcePort? targetPort?
  | .removeEdge id => removeEdge f id
  | .updateEdgeData id changes => updateEdgeData f id changes
  | .replaceFlow g => pure (g, ⟨.flowReplaced, [], []⟩)

/-- Carry out an edit. Every edit but the replacement of the flow makes the present its time of change. -/
def carryOut (r : Registry) (now : Time.Timestamp) (f : Flow) (edit : Edit) : Editing (Flow × Change) := do
  let (g, change) ← outcome r f edit
  return (if change.kind = .flowReplaced then g else { g with updatedAt := now }, change)

end IntegrationFlow.Editor
