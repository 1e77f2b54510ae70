import IntegrationFlow.Flow.Basic
import IntegrationFlow.Schema.Record
import IntegrationFlow.Time.Reading
import IntegrationFlow.Json.Reader
import IntegrationFlow.Json.Printer

/-!
# Flow documents

`Flow.read` reads a flow from a value and `Flow.toValue` gives it back; `Flow.parse` and `Flow.exportText` do the same with
JSON text. Timestamps that a document leaves out are set to the time of reading.
-/

namespace IntegrationFlow

open Schema Time

namespace MappingKind

/-- The names of the kinds. -/
def names : List (String × MappingKind) :=
  [("direct", .direct), ("transform", .transform), ("static", .static)]

/-- The name of a kind. -/
def name : MappingKind → String
  | .direct => "direct"
  | .transform => "transform"
  | .static => "static"

/-- A name stands for its kind. -/
theorem lookup_name (k : MappingKind) : names.lookup k.name = some k := by
  cases k <;> rfl

end MappingKind

namespace Strategy

/-- The names of the strategies. -/
def names : List (String × Strategy) :=
  [("propagate", .propagate), ("fallback", .fallback), ("retry", .retry)]

/-- The name of a strategy. -/
def name : Strategy → String
  | .propagate => "propagate"
  | .fallback => "fallback"
  | .retry => "retry"

/-- A name stands for its strategy. -/
theorem lookup_name (s : Strategy) : names.lookup s.name = some s := by
  cases s <;> rfl

end Strategy

/-- A text, or null. -/
def optionalText : Option String → Value
  | some s => .text s
  | none => .null

namespace Port

/-- Read a port. -/
def read : Value → Checked Port :=
  record fun fields =>
    Port.mk <$> requiredField fields "id" text <*> optionalField fields "name" "" text <*> optionalField fields "type" anyType text
      <*> optionalField fields "required" false flag

/-- The port as a value. -/
def toValue (p : Port) : Value :=
  .ofFields [("id", .text p.id), ("name", .text p.name), ("type", .text p.type), ("required", .bool p.required)]

end Port

namespace Position

/-- Read a position. -/
def read : Value → Checked Position :=
  record fun fields => Position.mk <$> optionalField fields "x" 0.0 number <*> optionalField fields "y" 0.0 number

/-- The position as a value. -/
def toValue (p : Position) : Value :=
  .ofFields [("x", .float p.x), ("y", .float p.y)]

end Position

namespace NodeData

/-- Read the data of a node. -/
def read : Value → Checked NodeData :=
  record fun fields =>
    NodeData.mk <$> optionalField fields "label" "" text <*> optionalField fields "config" [] object
      <*> optionalField fields "inputs" [] (listOf Port.read) <*> optionalField fields "outputs" [] (listOf Port.read)

/-- The data of a node as a value. -/
def toValue (d : NodeData) : Value :=
  .ofFields [("label", .text d.label), ("config", .object d.config), ("inputs", .list (d.inputs.map Port.toValue)),
    ("outputs", .list (d.outputs.map Port.toValue))]

end NodeData

namespace Node

/-- Read a node. -/
def read : Value → Checked Node :=
  record fun fields =>
    Node.mk <$> requiredField fields "id" text <*> requiredField fields "type" text <*> optionalField fields "position" {} Position.read
      <*> optionalField fields "data" {} NodeData.read

/-- The node as a value. -/
def toValue (n : Node) : Value :=
  .ofFields [("id", .text n.id), ("type", .text n.type), ("position", n.position.toValue), ("data", n.data.toValue)]

end Node

namespace FieldMapping

/-- Read a field mapping. -/
def read : Value → Checked FieldMapping :=
  record fun fields =>
    FieldMapping.mk <$> requiredField fields "id" text <*> optionalField fields "sourceField" "" text
      <*> requiredField fields "targetField" text <*> optionalField fields "type" .direct (oneOf MappingKind.names)
      <*> optionalField fields "transform" none (nullable text) <*> optionalField fields "staticValue" .null anything

/-- The field mapping as a value. -/
def toValue (m : FieldMapping) : Value :=
  .ofFields [("id", .text m.id), ("sourceField", .text m.sourceField), ("targetField", .text m.targetField),
    ("type", .text m.kind.name), ("transform", optionalText m.transform?), ("staticValue", m.staticValue)]

end FieldMapping

namespace EdgeData

/-- Read the data of an edge. -/
def read : Value → Checked EdgeData :=
  record fun fields =>
    EdgeData.mk <$> optionalField fields "condition" none (nullable text)
      <*> optionalField fields "mapping" [] (listOf FieldMapping.read)

/-- The data of an edge as a value. -/
def toValue (d : EdgeData) : Value :=
  .ofFields [("condition", optionalText d.condition?), ("mapping", .list (d.mapping.map FieldMapping.toValue))]

end EdgeData

namespace Edge

/-- Read an edge. -/
def read : Value → Checked Edge :=
  record fun fields =>
    Edge.mk <$> requiredField fields "id" text <*> requiredField fields "source" text <*> requiredField fields "target" text
      <*> optionalField fields "sourcePort" none (nullable text) <*> optionalField fields "targetPort" none (nullable text)
      <*> optionalField fields "data" {} EdgeData.read

/-- The edge as a value. -/
def toValue (e : Edge) : Value :=
  .ofFields [("id", .text e.id), ("source", .text e.source), ("target", .text e.target),
    ("sourcePort", optionalText e.sourcePort?), ("targetPort", optionalText e.targetPort?), ("data", e.data.toValue)]

end Edge

namespace FlowConfig

/-- Read the defaults of a flow. -/
def read : Value → Checked FlowConfig :=
  record fun fields =>
    FlowConfig.mk <$> optionalField fields "timeout" 30000 natural <*> optionalField fields "retries" 3 natural
      <*> optionalField fields "errorHandling" .propagate (oneOf Strategy.names)

/-- The defaults of a flow as a value. -/
def toValue (c : FlowConfig) : Value :=
  .ofFields [("timeout", .int c.timeout), ("retries", .int c.retries), ("errorHandling", .text c.errorHandling.name)]

end FlowConfig

namespace Flow

/-- Read a flow. -/
def read (now : Timestamp) : Value → Checked Flow :=
  record fun fields =>
    Flow.mk <$> requiredField fields "id" text <*> requiredField fields "name" text <*> optionalField fields "description" "" text
      <*> optionalField fields "version" "1.0.0" text <*> optionalField fields "nodes" [] (listOf Node.read)
      <*> optionalField fields "edges" [] (listOf Edge.read) <*> optionalField fields "config" {} FlowConfig.read
      <*> optionalField fields "createdAt" now timestamp <*> optionalField fields "updatedAt" now timestamp

/-- The flow as a value. -/
def toValue (f : Flow) : Value :=
  .ofFields [("id", .text f.id), ("name", .text f.name), ("description", .text f.description),
    ("version", .text f.version), ("nodes", .list (f.nodes.map Node.toValue)),
    ("edges", .list (f.edges.map Edge.toValue)), ("config", f.config.toValue),
    ("createdAt", .text f.createdAt.render), ("updatedAt", .text f.updatedAt.render)]

/-- The deepest nesting of a document. -/
def maxNesting : Nat := 200

/-- Read a flow from a value that stands for a JSON text. -/
def ofValue (now : Timestamp) (v : Value) : Checked Flow :=
  if v.depth ≤ maxNesting then read now v else .fail .notJson

/-- Read a flow from JSON text. -/
def parse (now : Timestamp) (document : String) : Checked Flow :=
  match Json.parseWithin maxNesting document with
  | some v => read now v
  | none => .fail .notJson

/-- The flow as JSON holds it. A value that an editor put into it may have no JSON form. -/
def toJson (f : Flow) : Except Json.Unwritable Value :=
  Json.writable f.toValue

/-- The flow as JSON text. -/
def exportText (f : Flow) : Except Json.Unwritable String :=
  f.toJson.map Json.pretty

/-- The flows are equal: all their parts are, as values, and their timestamps are the same instants. -/
def eq (f g : Flow) : Bool :=
  ({ f with createdAt := default, updatedAt := default } : Flow).toValue.eq
    ({ g with createdAt := default, updatedAt := default } : Flow).toValue &&
    f.createdAt.eq g.createdAt && f.updatedAt.eq g.updatedAt

end Flow

end IntegrationFlow
