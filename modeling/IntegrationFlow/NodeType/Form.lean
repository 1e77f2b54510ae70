import IntegrationFlow.NodeType.Config

/-!
# Configuration forms

A form lists the fields of a configuration with the widget, the label and the options that an editor shows for each.
`Kind.form` gives the forms of the built-in kinds; their fields are named like the settings.
-/

namespace IntegrationFlow

open Schema

/-- What an editor shows for a field, and with it the kind of value that fits. -/
inductive Widget where
  | text
  | number
  | select
  | boolean
  | json
  | code
deriving DecidableEq, Inhabited

namespace Widget

/-- The names of the widgets. -/
def names : List (String × Widget) :=
  [("text", .text), ("number", .number), ("select", .select), ("boolean", .boolean), ("json", .json), ("code", .code)]

/-- The name of a widget. -/
def name : Widget → String
  | .text => "text"
  | .number => "number"
  | .select => "select"
  | .boolean => "boolean"
  | .json => "json"
  | .code => "code"

end Widget

/-- A field of a form. -/
structure FormField where
  name : String
  widget : Widget
  label : String
  required : Bool := false
  options : List String := []
  placeholder : Option String := none
  description : Option String := none
deriving DecidableEq, Inhabited

namespace FormField

/-- Read a field. -/
def read : Value → Checked FormField :=
  record fun fields =>
    FormField.mk <$> requiredField fields "name" Schema.text <*> requiredField fields "type" (oneOf Widget.names)
      <*> requiredField fields "label" Schema.text <*> optionalField fields "required" false flag
      <*> optionalField fields "options" [] (listOf Schema.text)
      <*> optionalField fields "placeholder" none (nullable Schema.text)
      <*> optionalField fields "description" none (nullable Schema.text)

/-- The field as a value. -/
def toValue (f : FormField) : Value :=
  .ofFields [("name", .text f.name), ("type", .text f.widget.name), ("label", .text f.label),
    ("required", .bool f.required), ("options", .list (f.options.map .text)),
    ("placeholder", optionalText f.placeholder), ("description", optionalText f.description)]

end FormField

/-- The ways in which the waiting time between attempts can grow. -/
def backoffOptions : List String := ["fixed", "exponential"]

/-- The fields of every node that simulates a call. -/
def outboundForm : List FormField := [
  { name := "timeout", widget := .number, label := "Timeout (ms)" },
  { name := "retries", widget := .number, label := "Retry Count" },
  { name := "backoffMs", widget := .number, label := "Backoff (ms)" },
  { name := "backoffStrategy", widget := .select, label := "Backoff Strategy", options := backoffOptions },
  { name := "circuitBreaker", widget := .boolean, label := "Enable Circuit Breaker" },
  { name := "simulatedLatencyMs", widget := .number, label := "Simulated Latency (ms)" },
  { name := "failureMode", widget := .select, label := "Simulated Failure", options := ["none", "error", "timeout"] },
  { name := "failAttempts", widget := .number, label := "Failing Attempts",
    description := some "Fail only the first N attempts; empty fails every attempt" },
  { name := "mockResponse", widget := .json, label := "Mock Response" }]

/-- The form of a kind. -/
def Kind.form : Kind → List FormField
  | .ingress => [
    { name := "path", widget := .text, label := "Endpoint Path", required := true,
      placeholder := some "/api/endpoint" },
    { name := "method", widget := .select, label := "HTTP Method", required := true,
      options := ["GET", "POST", "PUT", "DELETE", "PATCH"] },
    { name := "timeout", widget := .number, label := "Timeout (ms)" },
    { name := "enableAuth", widget := .boolean, label := "Enable Authentication" },
    { name := "authType", widget := .select, label := "Auth Type", options := ["none", "basic", "bearer", "apikey"] }]
  | .transform => [
    { name := "transformType", widget := .select, label := "Transform Type",
      options := ["expression", "template", "jsonpath"] },
    { name := "code", widget := .code, label := "Transform Code", required := true,
      description := some "Expression evaluated with the node input bound to 'input'" }]
  | .connector => outboundForm ++ [
    { name := "connectorId", widget := .select, label := "Connector", required := true },
    { name := "endpointId", widget := .select, label := "Endpoint", required := true }]
  | .serviceCall => outboundForm ++ [
    { name := "serviceName", widget := .text, label := "Service Name", required := true,
      placeholder := some "OrderService" },
    { name := "methodName", widget := .text, label := "Method Name", required := true,
      placeholder := some "processOrder" },
    { name := "async", widget := .boolean, label := "Asynchronous Call" }]
  | .condition => [
    { name := "condition", widget := .code, label := "Condition Expression", required := true },
    { name := "conditionType", widget := .select, label := "Expression Type", options := ["expression", "jsonpath"] }]
  | .database => [
    { name := "operation", widget := .select, label := "Operation",
      options := ["SELECT", "INSERT", "UPDATE", "DELETE"] },
    { name := "table", widget := .text, label := "Table Name", required := true },
    { name := "query", widget := .code, label := "SQL Query", required := true },
    { name := "dataSource", widget := .text, label := "Data Source", placeholder := some "primary" },
    { name := "simulatedLatencyMs", widget := .number, label := "Simulated Latency (ms)" },
    { name := "failureMode", widget := .select, label := "Simulated Failure", options := ["none", "error"] },
    { name := "mockRows", widget := .json, label := "Mock Rows" }]
  | .errorHandler => [
    { name := "strategy", widget := .select, label := "Error Strategy", options := ["retry", "fallback", "propagate"],
      description := some "Empty falls back to the flow's error handling" },
    { name := "maxRetries", widget := .number, label := "Max Retries" },
    { name := "backoffMs", widget := .number, label := "Backoff (ms)" },
    { name := "backoffStrategy", widget := .select, label := "Backoff Strategy", options := backoffOptions },
    { name := "fallbackValue", widget := .json, label := "Fallback Value" }]
  | .serviceBox => [
    { name := "name", widget := .text, label := "Service Box Name", required := true },
    { name := "description", widget := .text, label := "Description" },
    { name := "restServices", widget := .json, label := "REST Services" }]

/-- The fields of a form are named like the settings, in the same order. -/
theorem Kind.form_names (k : Kind) : k.form.map (·.name) = k.defaults.fields.map (·.1) := by
  cases k <;> rfl

end IntegrationFlow
