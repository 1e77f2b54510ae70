import IntegrationFlow.Value.Equality
import IntegrationFlow.Time.Timestamp

/-!
# Flows

A flow is a directed graph of typed nodes. An edge leads from an output port of one node to an input port of another,
and may carry field mappings that shape what it hands over. An edge that leaves out a port means the first one of its
node; `Flow.edgeKey` is the connection that is meant, so two spellings of one connection have one key.
-/

namespace IntegrationFlow

/-- The port type that goes with every other. -/
def anyType : String := "any"

/-- The type of the ports through which failures leave. -/
def errorType : String := "error"

/-- A value may pass from a port of one type to a port of another. -/
def isAssignable (source target : String) : Bool :=
  source == anyType || target == anyType || source == target

/-- A connection point of a node. -/
structure Port where
  id : String
  name : String := ""
  type : String := anyType
  required : Bool := false
deriving DecidableEq, Inhabited

/-- A place on the canvas. It has no influence on what a flow does. -/
structure Position where
  x : Float := 0.0
  y : Float := 0.0
deriving Inhabited

/-- The label, the configuration and the ports of a node. -/
structure NodeData where
  label : String := ""
  config : Entries := []
  inputs : List Port := []
  outputs : List Port := []
deriving Inhabited

/-- A unit of work. -/
structure Node where
  id : String
  type : String
  position : Position := {}
  data : NodeData := {}
deriving Inhabited

/-- The port with an id; with no id, the first one. -/
def findPort (ports : List Port) : Option String → Option Port
  | none => ports.head?
  | some id => ports.find? (·.id == id)

namespace Node

/-- An input port by its id; with no id, the first one. -/
def input? (n : Node) (id? : Option String) : Option Port :=
  findPort n.data.inputs id?

/-- An output port by its id; with no id, the first one. -/
def output? (n : Node) (id? : Option String) : Option Port :=
  findPort n.data.outputs id?

end Node

/-- How a field mapping makes its value. -/
inductive MappingKind where
  /-- The source field as it is. -/
  | direct
  /-- The value of an expression over the source field. -/
  | transform
  /-- A fixed value. -/
  | static
deriving DecidableEq, Inhabited

/-- A rule for one field of what an edge hands over. -/
structure FieldMapping where
  id : String
  sourceField : String := ""
  targetField : String
  kind : MappingKind := .direct
  transform? : Option String := none
  staticValue : Value := .null
deriving Inhabited

/-- The branch label and the field mappings of an edge. -/
structure EdgeData where
  condition? : Option String := none
  mapping : List FieldMapping := []
deriving Inhabited

/-- A connection from a source port to a target port. -/
structure Edge where
  id : String
  source : String
  target : String
  sourcePort? : Option String := none
  targetPort? : Option String := none
  data : EdgeData := {}
deriving Inhabited

/-- What to do about a failure. -/
inductive Strategy where
  | propagate
  | fallback
  | retry
deriving DecidableEq, Inhabited

/-- The defaults of a flow. -/
structure FlowConfig where
  timeout : Nat := 30000
  retries : Nat := 3
  errorHandling : Strategy := .propagate
deriving DecidableEq, Inhabited

/-- A flow. -/
structure Flow where
  id : String
  name : String
  description : String := ""
  version : String := "1.0.0"
  nodes : List Node := []
  edges : List Edge := []
  config : FlowConfig := {}
  createdAt : Time.Timestamp
  updatedAt : Time.Timestamp
deriving Inhabited

/-- The connection that an edge means, with its ports filled in. -/
structure EdgeKey where
  source : String
  sourcePort? : Option String
  target : String
  targetPort? : Option String
deriving DecidableEq

namespace Flow

/-- The first node with an id. -/
def node? (f : Flow) (id : String) : Option Node :=
  f.nodes.find? (·.id == id)

/-- The first edge with an id. -/
def edge? (f : Flow) (id : String) : Option Edge :=
  f.edges.find? (·.id == id)

/-- The edges that leave a node, in the order of their declaration. -/
def outgoing (f : Flow) (id : String) : List Edge :=
  f.edges.filter (·.source == id)

/-- The edges that enter a node, in the order of their declaration. -/
def incoming (f : Flow) (id : String) : List Edge :=
  f.edges.filter (·.target == id)

/-- The ids of the nodes, in the order of their declaration. -/
def nodeIds (f : Flow) : List String :=
  f.nodes.map (·.id)

/-- The ids of the edges, in the order of their declaration. -/
def edgeIds (f : Flow) : List String :=
  f.edges.map (·.id)

/-- The output port from which an edge leaves. -/
def sourcePort? (f : Flow) (e : Edge) : Option Port :=
  (f.node? e.source).bind (·.output? e.sourcePort?)

/-- The input port at which an edge arrives. -/
def targetPort? (f : Flow) (e : Edge) : Option Port :=
  (f.node? e.target).bind (·.input? e.targetPort?)

/-- The connection that an edge means. Where a node or a port is unknown, the port stands as it is given. -/
def edgeKey (f : Flow) (e : Edge) : EdgeKey :=
  ⟨e.source, ((f.sourcePort? e).map (·.id)).or e.sourcePort?, e.target, ((f.targetPort? e).map (·.id)).or e.targetPort?⟩

/-- A node that is found is one of the flow's nodes and has the id. -/
theorem mem_of_node?_eq_some {f : Flow} {id : String} {n : Node} (h : f.node? id = some n) : n ∈ f.nodes ∧ n.id = id :=
  ⟨List.mem_of_find?_eq_some h, by simpa using List.find?_some h⟩

/-- An edge leaves a node exactly when it is one of the flow's edges and names the node as its source. -/
theorem mem_outgoing {f : Flow} {id : String} {e : Edge} : e ∈ f.outgoing id ↔ e ∈ f.edges ∧ e.source = id := by
  simp [outgoing]

/-- An edge enters a node exactly when it is one of the flow's edges and names the node as its target. -/
theorem mem_incoming {f : Flow} {id : String} {e : Edge} : e ∈ f.incoming id ↔ e ∈ f.edges ∧ e.target = id := by
  simp [incoming]

end Flow

end IntegrationFlow
