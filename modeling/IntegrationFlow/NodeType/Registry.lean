import IntegrationFlow.NodeType.Form

/-!
# Node types

A node type is what a node is made from: its ports, its first configuration and the form for it. A registry is a list
of node types with distinct names. `Registry.builtin` holds the eight built-in kinds, and `Registry.extend?` adds types
whose configuration is known only by its form.
-/

namespace IntegrationFlow

open Schema

/-- The part that a node type plays in a flow. -/
inductive Category where
  | input
  | transform
  | output
  | logic
  | data
deriving DecidableEq, Inhabited

namespace Category

/-- The names of the categories. -/
def names : List (String × Category) :=
  [("input", .input), ("transform", .transform), ("output", .output), ("logic", .logic), ("data", .data)]

/-- The name of a category. -/
def name : Category → String
  | .input => "input"
  | .transform => "transform"
  | .output => "output"
  | .logic => "logic"
  | .data => "data"

end Category

/-- What a node is made from. -/
structure NodeType where
  type : String
  label : String
  icon : String := ""
  category : Category
  defaultData : NodeData
  form : List FormField := []
  /-- Outputs of which one is chosen; each must be wired. -/
  branchPorts : List String := []
  /-- Several inputs may arrive at once. -/
  mergeSupport : Bool := false
  /-- The built-in kind that the type is. -/
  kind? : Option Kind := none
deriving Inhabited

namespace NodeType

/-- The type chooses between outputs. -/
def isBranch (t : NodeType) : Bool :=
  t.branchPorts.length > 1

/-- A field of the form. -/
def field? (t : NodeType) (name : String) : Option FormField :=
  t.form.find? (·.name == name)

/-- Read a node type. -/
def read : Value → Checked NodeType :=
  record fun fields =>
    (fun type label icon category data form ports merge => NodeType.mk type label icon category data form ports merge none)
      <$> requiredField fields "type" Schema.text <*> requiredField fields "label" Schema.text
      <*> optionalField fields "icon" "" Schema.text <*> requiredField fields "category" (oneOf Category.names)
      <*> requiredField fields "defaultData" NodeData.read <*> optionalField fields "configSchema" [] (listOf FormField.read)
      <*> optionalField fields "branchPorts" [] (listOf Schema.text) <*> optionalField fields "mergeSupport" false flag

/-- The node type as a value. -/
def toValue (t : NodeType) : Value :=
  .ofFields [("type", .text t.type), ("label", .text t.label), ("icon", .text t.icon),
    ("category", .text t.category.name), ("defaultData", t.defaultData.toValue),
    ("configSchema", .list (t.form.map FormField.toValue)), ("branchPorts", .list (t.branchPorts.map .text)),
    ("mergeSupport", .bool t.mergeSupport)]

end NodeType

namespace Kind

/-- The label of a kind in the catalog. -/
def label : Kind → String
  | .ingress => "HTTP Ingress"
  | .transform => "Transform"
  | .connector => "Connector"
  | .serviceCall => "Service Call"
  | .condition => "Condition"
  | .database => "Database"
  | .errorHandler => "Error Handler"
  | .serviceBox => "Service Box"

/-- The label of a new node of a kind. -/
def nodeLabel : Kind → String
  | .ingress => "HTTP Endpoint"
  | .transform => "Data Transform"
  | .connector => "External API"
  | .serviceCall => "Internal Service"
  | .condition => "Conditional Logic"
  | .database => "Database Operation"
  | .errorHandler => "Error Handler"
  | .serviceBox => "Service Box"

/-- The icon of a kind. -/
def icon : Kind → String
  | .ingress => "Globe"
  | .transform => "Zap"
  | .connector => "Link"
  | .serviceCall => "Server"
  | .condition => "GitBranch"
  | .database => "Database"
  | .errorHandler => "AlertTriangle"
  | .serviceBox => "Package"

/-- The category of a kind. -/
def category : Kind → Category
  | .ingress => .input
  | .transform => .transform
  | .connector => .output
  | .serviceCall => .logic
  | .condition => .logic
  | .database => .data
  | .errorHandler => .logic
  | .serviceBox => .logic

/-- The input ports of a kind. -/
def inputs : Kind → List Port
  | .ingress => []
  | .transform => [⟨"input", "Input", anyType, true⟩]
  | .connector => [⟨"request", "Request", "object", true⟩]
  | .serviceCall => [⟨"parameters", "Parameters", "object", true⟩]
  | .condition => [⟨"input", "Input", anyType, true⟩]
  | .database => [⟨"parameters", "Parameters", "object", false⟩]
  | .errorHandler => [⟨"error", "Error", anyType, true⟩]
  | .serviceBox => [⟨"input", "Input", "object", true⟩]

/-- The port through which failures of a kind leave. -/
def failurePort : Port := ⟨"error", "Error", errorType, false⟩

/-- The output ports of a kind. -/
def outputs : Kind → List Port
  | .ingress => [⟨"success", "Success", "object", true⟩, failurePort]
  | .transform => [⟨"output", "Output", anyType, true⟩, failurePort]
  | .connector => [⟨"response", "Response", "object", true⟩, failurePort]
  | .serviceCall => [⟨"result", "Result", "object", true⟩, failurePort]
  | .condition => [⟨"true", "True", anyType, true⟩, ⟨"false", "False", anyType, true⟩, failurePort]
  | .database => [⟨"result", "Result", anyType, true⟩, failurePort]
  | .errorHandler => [⟨"handled", "Handled", anyType, true⟩, ⟨"unhandled", "Unhandled", errorType, false⟩]
  | .serviceBox => [⟨"output", "Output", "object", true⟩]

/-- The outputs between which a kind chooses. -/
def branchPorts : Kind → List String
  | .condition => ["true", "false"]
  | .errorHandler => ["handled", "unhandled"]
  | _ => []

/-- The node type of a kind. -/
def nodeType (k : Kind) : NodeType where
  type := k.name
  label := k.label
  icon := k.icon
  category := k.category
  defaultData := ⟨k.nodeLabel, k.defaults.toEntries, k.inputs, k.outputs⟩
  form := k.form
  branchPorts := k.branchPorts
  kind? := some k

end Kind

/-- Node types with distinct names. -/
structure Registry where
  types : List NodeType
  nodup : (types.map (·.type)).Nodup

namespace Registry

/-- The registry of the built-in kinds. -/
def builtin : Registry :=
  ⟨Kind.all.map Kind.nodeType, by decide⟩

/-- The node type with a name. -/
def find? (r : Registry) (type : String) : Option NodeType :=
  r.types.find? (·.type == type)

/-- The registry has a node type with the name. -/
def contains (r : Registry) (type : String) : Bool :=
  (r.find? type).isSome

/-- The first name that occurs a second time. -/
def repeated? : List String → List String → Option String
  | _, [] => none
  | seen, t :: ts => if seen.contains t then some t else repeated? (t :: seen) ts

/-- A registry with additional node types, or the first name that it would hold twice. -/
def extend? (r : Registry) (more : List NodeType) : Except String Registry :=
  if h : ((r.types ++ more).map (·.type)).Nodup then .ok ⟨r.types ++ more, h⟩
  else .error ((repeated? [] ((r.types ++ more).map (·.type))).getD "")

/-- The wording for a name that a registry would hold twice. -/
def repeatedMessage (type : String) : String :=
  "Node type '" ++ type ++ "' registered twice"

/-- A node type that is found is one of the registry's and has the name. -/
theorem mem_of_find?_eq_some {r : Registry} {type : String} {t : NodeType} (h : r.find? type = some t) :
    t ∈ r.types ∧ t.type = type :=
  ⟨List.mem_of_find?_eq_some h, by simpa using List.find?_some h⟩

/-- A node is an entry point of its flow. -/
def isIngress (r : Registry) (n : Node) : Bool :=
  (r.find? n.type).any (·.category == .input)

end Registry

end IntegrationFlow
