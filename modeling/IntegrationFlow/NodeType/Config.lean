import IntegrationFlow.Flow.Document

/-!
# Typed configurations

The settings of the built-in kinds of nodes. A configuration is stored as an object; `Kind.read` reads it, with a
default for every setting that is left out, and refuses keys that are no setting.
-/

namespace IntegrationFlow

open Schema

/-- The built-in kinds of nodes. -/
inductive Kind where
  | ingress
  | transform
  | connector
  | serviceCall
  | condition
  | database
  | errorHandler
  | serviceBox
deriving DecidableEq, Inhabited

/-- The settings of the node through which a flow is entered. -/
structure IngressConfig where
  path : String := "/api/endpoint"
  method : String := "POST"
  timeout : Nat := 30000
  enableAuth : Bool := false
  authType : String := "none"

/-- The settings of a transformation. -/
structure TransformConfig where
  transformType : String := "expression"
  code : String := "\x7b**input\x7d"

/-- The settings of every node that simulates a call. -/
structure OutboundConfig where
  /-- The longest time in milliseconds that a call may take; zero sets no limit. -/
  timeout : Nat := 30000
  retries : Nat := 3
  backoffMs : Nat := 0
  backoffStrategy : String := "fixed"
  circuitBreaker : Bool := true
  simulatedLatencyMs : Option Nat := none
  failureMode : String := "none"
  /-- How many attempts fail; all of them when it is left out. -/
  failAttempts : Option Nat := none
  mockResponse : Value := .null

/-- The settings of a connector. -/
structure ConnectorConfig where
  outbound : OutboundConfig := {}
  connectorId : String := ""
  endpointId : String := ""

/-- The settings of a service call. -/
structure ServiceCallConfig where
  outbound : OutboundConfig := { timeout := 10000, retries := 0, circuitBreaker := false }
  serviceName : String := ""
  methodName : String := ""
  asynchronous : Bool := false

/-- The settings of a condition. -/
structure ConditionConfig where
  condition : String := "input.amount > 1000"
  conditionType : String := "expression"

/-- The settings of a database operation. -/
structure DatabaseConfig where
  operation : String := "SELECT"
  table : String := ""
  query : String := ""
  dataSource : String := "primary"
  simulatedLatencyMs : Option Nat := none
  failureMode : String := "none"
  mockRows : Option (List Value) := none

/-- The settings of an error handler. -/
structure ErrorHandlerConfig where
  /-- What to do about a failure; the flow's own default when it is left out. -/
  strategy : Option String := some "retry"
  maxRetries : Nat := 3
  backoffMs : Nat := 1000
  backoffStrategy : String := "fixed"
  fallbackValue : Value := .null

/-- The settings of a service box. -/
structure ServiceBoxConfig where
  name : String := "Service Box"
  description : String := "Container for REST services"
  restServices : List Value := []

/-- The settings of a node. -/
inductive Config where
  | ingress (c : IngressConfig)
  | transform (c : TransformConfig)
  | connector (c : ConnectorConfig)
  | serviceCall (c : ServiceCallConfig)
  | condition (c : ConditionConfig)
  | database (c : DatabaseConfig)
  | errorHandler (c : ErrorHandlerConfig)
  | serviceBox (c : ServiceBoxConfig)

/-- A whole number that is not negative, or null. -/
def optionalNatural : Option Nat → Value
  | some n => .int n
  | none => .null

namespace IngressConfig

/-- The spellings of the settings. -/
def spellings : List Spelling :=
  ["path", "method", "timeout", "enableAuth", "authType"].map .camel

/-- Read the settings. -/
def read (es : Entries) : Checked IngressConfig :=
  let d : IngressConfig := {}
  IngressConfig.mk <$> optionalField es "path" d.path text <*> optionalField es "method" d.method text
    <*> optionalField es "timeout" d.timeout natural <*> optionalField es "enableAuth" d.enableAuth flag
    <*> optionalField es "authType" d.authType text

/-- The settings as fields. -/
def fields (c : IngressConfig) : List (String × Value) :=
  [("path", .text c.path), ("method", .text c.method), ("timeout", .int c.timeout), ("enableAuth", .bool c.enableAuth),
    ("authType", .text c.authType)]

end IngressConfig

namespace TransformConfig

/-- The spellings of the settings. -/
def spellings : List Spelling :=
  ["transformType", "code"].map .camel

/-- Read the settings. -/
def read (es : Entries) : Checked TransformConfig :=
  let d : TransformConfig := {}
  TransformConfig.mk <$> optionalField es "transformType" d.transformType text <*> optionalField es "code" d.code text

/-- The settings as fields. -/
def fields (c : TransformConfig) : List (String × Value) :=
  [("transformType", .text c.transformType), ("code", .text c.code)]

end TransformConfig

namespace OutboundConfig

/-- The spellings of the settings. -/
def spellings : List Spelling :=
  ["timeout", "retries", "backoffMs", "backoffStrategy", "circuitBreaker", "simulatedLatencyMs", "failureMode",
    "failAttempts", "mockResponse"].map .camel

/-- Read the settings, with the stated defaults. -/
def read (d : OutboundConfig) (es : Entries) : Checked OutboundConfig :=
  OutboundConfig.mk <$> optionalField es "timeout" d.timeout natural <*> optionalField es "retries" d.retries natural
    <*> optionalField es "backoffMs" d.backoffMs natural <*> optionalField es "backoffStrategy" d.backoffStrategy text
    <*> optionalField es "circuitBreaker" d.circuitBreaker flag
    <*> optionalField es "simulatedLatencyMs" d.simulatedLatencyMs (nullable natural)
    <*> optionalField es "failureMode" d.failureMode text
    <*> optionalField es "failAttempts" d.failAttempts (nullable natural)
    <*> optionalField es "mockResponse" d.mockResponse anything

/-- The settings as fields. -/
def fields (c : OutboundConfig) : List (String × Value) :=
  [("timeout", .int c.timeout), ("retries", .int c.retries), ("backoffMs", .int c.backoffMs),
    ("backoffStrategy", .text c.backoffStrategy), ("circuitBreaker", .bool c.circuitBreaker),
    ("simulatedLatencyMs", optionalNatural c.simulatedLatencyMs), ("failureMode", .text c.failureMode),
    ("failAttempts", optionalNatural c.failAttempts), ("mockResponse", c.mockResponse)]

end OutboundConfig

namespace ConnectorConfig

/-- The spellings of the settings. -/
def spellings : List Spelling :=
  OutboundConfig.spellings ++ ["connectorId", "endpointId"].map .camel

/-- Read the settings. -/
def read (es : Entries) : Checked ConnectorConfig :=
  let d : ConnectorConfig := {}
  ConnectorConfig.mk <$> OutboundConfig.read d.outbound es <*> optionalField es "connectorId" d.connectorId text
    <*> optionalField es "endpointId" d.endpointId text

/-- The settings as fields. -/
def fields (c : ConnectorConfig) : List (String × Value) :=
  c.outbound.fields ++ [("connectorId", .text c.connectorId), ("endpointId", .text c.endpointId)]

end ConnectorConfig

namespace ServiceCallConfig

/-- The setting whose two spellings differ by more than their case. -/
def asyncSpelling : Spelling := ⟨"async", "is_async"⟩

/-- The spellings of the settings. -/
def spellings : List Spelling :=
  OutboundConfig.spellings ++ ["serviceName", "methodName"].map .camel ++ [asyncSpelling]

/-- Read the settings. -/
def read (es : Entries) : Checked ServiceCallConfig :=
  let d : ServiceCallConfig := {}
  ServiceCallConfig.mk <$> OutboundConfig.read d.outbound es <*> optionalField es "serviceName" d.serviceName text
    <*> optionalField es "methodName" d.methodName text <*> spelledField es asyncSpelling d.asynchronous flag

/-- The settings as fields. -/
def fields (c : ServiceCallConfig) : List (String × Value) :=
  c.outbound.fields ++
    [("serviceName", .text c.serviceName), ("methodName", .text c.methodName), ("async", .bool c.asynchronous)]

end ServiceCallConfig

namespace ConditionConfig

/-- The spellings of the settings. -/
def spellings : List Spelling :=
  ["condition", "conditionType"].map .camel

/-- Read the settings. -/
def read (es : Entries) : Checked ConditionConfig :=
  let d : ConditionConfig := {}
  ConditionConfig.mk <$> optionalField es "condition" d.condition text
    <*> optionalField es "conditionType" d.conditionType text

/-- The settings as fields. -/
def fields (c : ConditionConfig) : List (String × Value) :=
  [("condition", .text c.condition), ("conditionType", .text c.conditionType)]

end ConditionConfig

namespace DatabaseConfig

/-- The spellings of the settings. -/
def spellings : List Spelling :=
  ["operation", "table", "query", "dataSource", "simulatedLatencyMs", "failureMode", "mockRows"].map .camel

/-- Read the settings. -/
def read (es : Entries) : Checked DatabaseConfig :=
  let d : DatabaseConfig := {}
  DatabaseConfig.mk <$> optionalField es "operation" d.operation text <*> optionalField es "table" d.table text
    <*> optionalField es "query" d.query text <*> optionalField es "dataSource" d.dataSource text
    <*> optionalField es "simulatedLatencyMs" d.simulatedLatencyMs (nullable natural)
    <*> optionalField es "failureMode" d.failureMode text
    <*> optionalField es "mockRows" d.mockRows (nullable (listOf anything))

/-- The settings as fields. -/
def fields (c : DatabaseConfig) : List (String × Value) :=
  [("operation", .text c.operation), ("table", .text c.table), ("query", .text c.query),
    ("dataSource", .text c.dataSource), ("simulatedLatencyMs", optionalNatural c.simulatedLatencyMs),
    ("failureMode", .text c.failureMode),
    ("mockRows", match c.mockRows with
      | some rows => .list rows
      | none => .null)]

end DatabaseConfig

namespace ErrorHandlerConfig

/-- The spellings of the settings. -/
def spellings : List Spelling :=
  ["strategy", "maxRetries", "backoffMs", "backoffStrategy", "fallbackValue"].map .camel

/-- Read the settings. -/
def read (es : Entries) : Checked ErrorHandlerConfig :=
  let d : ErrorHandlerConfig := {}
  ErrorHandlerConfig.mk <$> optionalField es "strategy" d.strategy (nullable text)
    <*> optionalField es "maxRetries" d.maxRetries natural <*> optionalField es "backoffMs" d.backoffMs natural
    <*> optionalField es "backoffStrategy" d.backoffStrategy text
    <*> optionalField es "fallbackValue" d.fallbackValue anything

/-- The settings as fields. -/
def fields (c : ErrorHandlerConfig) : List (String × Value) :=
  [("strategy", optionalText c.strategy), ("maxRetries", .int c.maxRetries), ("backoffMs", .int c.backoffMs),
    ("backoffStrategy", .text c.backoffStrategy), ("fallbackValue", c.fallbackValue)]

end ErrorHandlerConfig

namespace ServiceBoxConfig

/-- The spellings of the settings. -/
def spellings : List Spelling :=
  ["name", "description", "restServices"].map .camel

/-- Read the settings. -/
def read (es : Entries) : Checked ServiceBoxConfig :=
  let d : ServiceBoxConfig := {}
  ServiceBoxConfig.mk <$> optionalField es "name" d.name text <*> optionalField es "description" d.description text
    <*> optionalField es "restServices" d.restServices (listOf anything)

/-- The settings as fields. -/
def fields (c : ServiceBoxConfig) : List (String × Value) :=
  [("name", .text c.name), ("description", .text c.description), ("restServices", .list c.restServices)]

end ServiceBoxConfig

namespace Kind

/-- The name of a kind, which is the type of its nodes. -/
def name : Kind → String
  | .ingress => "http-ingress"
  | .transform => "transform"
  | .connector => "connector"
  | .serviceCall => "service-call"
  | .condition => "condition"
  | .database => "database"
  | .errorHandler => "error-handler"
  | .serviceBox => "service-box"

/-- All kinds, in the order of the catalog. -/
def all : List Kind :=
  [.ingress, .transform, .connector, .serviceCall, .condition, .database, .errorHandler, .serviceBox]

/-- The settings of a kind with their defaults. -/
def defaults : Kind → Config
  | .ingress => .ingress {}
  | .transform => .transform {}
  | .connector => .connector {}
  | .serviceCall => .serviceCall {}
  | .condition => .condition {}
  | .database => .database {}
  | .errorHandler => .errorHandler {}
  | .serviceBox => .serviceBox {}

/-- Read the configuration of a node of a kind. -/
def read (k : Kind) (config : Entries) : Checked Config :=
  match k with
  | .ingress => (closed IngressConfig.spellings IngressConfig.read config).map .ingress
  | .transform => (closed TransformConfig.spellings TransformConfig.read config).map .transform
  | .connector => (closed ConnectorConfig.spellings ConnectorConfig.read config).map .connector
  | .serviceCall => (closed ServiceCallConfig.spellings ServiceCallConfig.read config).map .serviceCall
  | .condition => (closed ConditionConfig.spellings ConditionConfig.read config).map .condition
  | .database => (closed DatabaseConfig.spellings DatabaseConfig.read config).map .database
  | .errorHandler => (closed ErrorHandlerConfig.spellings ErrorHandlerConfig.read config).map .errorHandler
  | .serviceBox => (closed ServiceBoxConfig.spellings ServiceBoxConfig.read config).map .serviceBox

end Kind

/-- The settings as fields. -/
def Config.fields : Config → List (String × Value)
  | .ingress c => c.fields
  | .transform c => c.fields
  | .connector c => c.fields
  | .serviceCall c => c.fields
  | .condition c => c.fields
  | .database c => c.fields
  | .errorHandler c => c.fields
  | .serviceBox c => c.fields

/-- The settings as an object. -/
def Config.toEntries (c : Config) : Entries :=
  c.fields.map fun f => (.text f.1, f.2)

end IntegrationFlow
