import IntegrationFlow.Server.Route
import IntegrationFlow.Store.Basic
import IntegrationFlow.Run.Engine
import IntegrationFlow.Run.Lanes
import IntegrationFlow.Text.Encoding

/-!
# The service of flows

A service answers requests for the catalog of node types, the stored flows, checks of flows and test runs.
`Service.answer` gives the answer to one request and the service after it. Only saving and deleting change the store.
-/

namespace IntegrationFlow.Server

/-- A request: a method, a path and the bytes of its body. -/
structure Request where
  method : String
  path : String
  body : List UInt8 := []

/-- An answer; one to a request that leads nowhere has no body. -/
structure Response where
  status : Nat
  body? : Option Value

/-- What is wrong with the document in the body of a request. -/
inductive BodyProblem where
  | notJson
  | notObject (request : String)
  | nothingToRun
  | otherId (flow url : String)
deriving DecidableEq

/-- The wording of a problem. -/
def BodyProblem.message : BodyProblem → String
  | .notJson => "Request body is not valid JSON"
  | .notObject request => request ++ " request must be a JSON object"
  | .nothingToRun => "Run request needs 'flow' or 'flowId'"
  | .otherId flow url => "Flow id '" ++ flow ++ "' does not match URL id '" ++ url ++ "'"

/-- Why a request is refused. -/
inductive Refusal where
  | notAllowed (error : GraphError)
  | badBody (problem : BodyProblem)
  | badKey (problem : Store.KeyProblem)
  | unwritable (why : Json.Unwritable)
  /-- Some of the stored flows cannot be put in order by their times. -/
  | unordered
  /-- The run was broken off. -/
  | crashed (mishap : Expression.Mishap)

/-- A service. -/
structure Service where
  engine : Run.Engine
  /-- The execution id of the n-th run. -/
  nameRun : Nat → String
  store : Store := {}
  /-- How many runs there have been. -/
  runs : Nat := 0
  lanes : Run.Lanes := {}

/-- An answer that says what went wrong. -/
def failed (status : Nat) (error : Value) : Response :=
  ⟨status, some (.ofFields [("error", error)])⟩

/-- An answer to a bad request. -/
def badRequest (message : String) : Response :=
  failed 400 (.ofFields [("code", .text "BadRequest"), ("message", .text message)])

/-- An answer with a value. -/
def success (v : Value) : Response :=
  ⟨200, some v⟩

/-- A refusal of a document for a problem that has no place in it. -/
def badDocument (message : String) : Response :=
  failed 400 (.ofFields [("code", .text "InvalidFlowDocument"), ("message", .text message), ("nodeId", .null),
    ("edgeId", .null), ("diagnostics", .list [])])

/-- What is said of an expression that cannot be read because of a NUL character. -/
def nulMessage : String := "source code string cannot contain null bytes"

/-- The answer to a request that is refused. A request is left without an answer when flows cannot be put in order, and
when a run was broken off by anything but an expression that cannot be read. -/
def Refusal.response? : Refusal → Option Response
  | .notAllowed e =>
    some (failed (match e with
      | .flowNotFound _ => 404
      | _ => 400) e.toValue)
  | .badBody problem => some (badDocument problem.message)
  | .badKey problem => some (badRequest problem.message)
  | .unwritable why => some (badRequest why.message)
  | .unordered => none
  | .crashed .badValue => some (badRequest nulMessage)
  | .crashed _ => none

/-- A failure of the store refuses the request. -/
def Refusal.ofStore : Store.Failure → Refusal
  | .badKey problem => .badKey problem
  | .refused e => .notAllowed e
  | .unwritable why => .unwritable why

/-- A value as an answer holds it. -/
def written (v : Value) : Except Refusal Value :=
  (Json.writable v).mapError .unwritable

/-- The value that the body of a request holds; an empty body stands for an empty object. -/
def readBody (body : List UInt8) : Except Refusal Value :=
  if body.isEmpty then .ok (.object [])
  else
    match (Text.decodeText? body).bind Json.parse with
    | some v => .ok v
    | none => .error (.badBody .notJson)

/-- The object that the body of a request holds. -/
def readObject (request : String) (body : List UInt8) : Except Refusal Entries := do
  match ← readBody body with
  | .object fields => return fields
  | _ => throw (.badBody (.notObject request))

/-- The flow that a value holds. -/
def flowOfValue (now : Time.Timestamp) (v : Value) : Except Refusal Flow :=
  match Flow.ofValue now v with
  | .fits f => .ok f
  | .refused problems => .error (.notAllowed (.badDocument problems))

/-- The flow that a value holds, with its structure checked. -/
def importValue (r : Registry) (now : Time.Timestamp) (v : Value) : Except Refusal Flow := do
  let f ← flowOfValue now v
  match refusal? (Validator.checkStructure r f) with
  | some e => throw (.notAllowed e)
  | none => return f

/-- The flow that the body of a request holds, with its structure checked. -/
def importBody (r : Registry) (now : Time.Timestamp) (body : List UInt8) : Except Refusal Flow :=
  match Text.decodeUtf8? body with
  | some text => (Flow.importText r now text).mapError .notAllowed
  | none => .error (.notAllowed (.badDocument [⟨[], .notJson⟩]))

/-- What the list of flows tells of a flow. -/
def listed (f : Flow) : Value :=
  .ofFields [("id", .text f.id), ("name", .text f.name), ("version", .text f.version),
    ("updatedAt", .text f.updatedAt.renderOffset)]

namespace Service

/-- The node types that the service knows. -/
def registry (s : Service) : Registry :=
  s.engine.registry

/-- The catalog of node types. -/
def catalog (s : Service) : Except Refusal Value := do
  return .ofFields [("nodeTypes", .list (← s.registry.types.mapM fun t => written t.toValue))]

/-- The stored flows. -/
def listFlows (s : Service) (now : Time.Timestamp) : Except Refusal Value :=
  match s.store.list? now with
  | some flows => .ok (.ofFields [("flows", .list (flows.map listed))])
  | none => .error .unordered

/-- A stored flow. -/
def loadFlow (s : Service) (now : Time.Timestamp) (id : String) : Except Refusal Value := do
  let f ← (s.store.load s.registry now id).mapError Refusal.ofStore
  written f.toValue

/-- Store the flow in the body of a request under its id, which the path must give as well. -/
def saveFlow (s : Service) (now : Time.Timestamp) (id : String) (body : List UInt8) : Except Refusal (Service × Value) := do
  let f ← importBody s.registry now body
  if f.id != id then throw (.badBody (.otherId f.id id))
  let store ← (s.store.save f).mapError Refusal.ofStore
  return ({ s with store }, .ofFields [("id", .text f.id), ("saved", .bool true)])

/-- Remove a stored flow. -/
def deleteFlow (s : Service) (id : String) : Except Refusal (Service × Value) := do
  match (← (s.store.delete id).mapError Refusal.ofStore) with
  | (true, store) => return ({ s with store }, .ofFields [("id", .text id), ("deleted", .bool true)])
  | (false, _) => throw (.notAllowed (.flowNotFound id))

/-- Check the flow in the body of a request, or in the body's field `flow`. -/
def validate (s : Service) (now : Time.Timestamp) (body : List UInt8) : Except Refusal Value := do
  let fields ← readObject "Validate" body
  let f ← flowOfValue now ((Entries.field? "flow" fields).getD (.object fields))
  let findings := Validator.check s.registry f
  return .ofFields [("valid", .bool (findings.all fun d => !d.isError)), ("diagnostics", .list (findings.map Finding.toValue))]

/-- The flow that a request asks to be run: the one that it holds, or the stored one that it names. -/
def flowToRun (s : Service) (now : Time.Timestamp) (fields : Entries) : Except Refusal Flow :=
  match Entries.field? "flow" fields, Entries.field? "flowId" fields with
  | some v, _ => importValue s.registry now v
  | none, some id => (s.store.load s.registry now (id.str?.getD "")).mapError Refusal.ofStore
  | none, none => .error (.badBody .nothingToRun)

/-- Run a flow. A run is counted as soon as it begins. -/
def run (s : Service) (now : Time.Timestamp) (body : List UInt8) : Service × Except Refusal Value :=
  let started := do
    let fields ← readObject "Run" body
    let f ← s.flowToRun now fields
    let input := (Entries.field? "input" fields).getD (.object [])
    (s.engine.run f { input, execution := s.nameRun (s.runs + 1) }).mapError Refusal.notAllowed
  match started with
  | .error why => (s, .error why)
  | .ok report =>
    ({ s with runs := s.runs + 1 },
      match report.trace with
      | .ok trace => (trace.toJson).mapError .unwritable
      | .error (.unwritable why) => .error (.unwritable why)
      | .error (.crashed m) => .error (.crashed m))

/-- Cancel the run of a flow that is on. -/
def cancel (s : Service) (id : String) : Service × Value :=
  let (cancelled, lanes) := s.lanes.cancel id
  ({ s with lanes }, .ofFields [("flowId", .text id), ("cancelled", .bool cancelled)])

/-- A part of the service that leaves it as it is. -/
def unchanged (s : Service) (r : Except Refusal Value) : Service × Except Refusal Value :=
  (s, r)

/-- A part of the service that changes it unless the request is refused. -/
def changed (s : Service) : Except Refusal (Service × Value) → Service × Except Refusal Value
  | .ok (t, v) => (t, .ok v)
  | .error why => (s, .error why)

/-- Carry out an action. -/
def perform (s : Service) (now : Time.Timestamp) (body : List UInt8) : Action → Service × Except Refusal Value
  | .catalog => s.unchanged s.catalog
  | .listFlows => s.unchanged (s.listFlows now)
  | .validate => s.unchanged (s.validate now body)
  | .run => s.run now body
  | .loadFlow id => s.unchanged (s.loadFlow now id)
  | .saveFlow id => s.changed (s.saveFlow now id body)
  | .deleteFlow id => s.changed (s.deleteFlow id)
  | .cancel id => let (t, v) := s.cancel id; (t, .ok v)

/-- Answer a request, or give the reason why it is left without an answer. -/
def answer (s : Service) (now : Time.Timestamp) (r : Request) : Service × Except Refusal Response :=
  match destination r.method r.path with
  | .unknownPath => (s, .ok ⟨404, none⟩)
  | .wrongMethod => (s, .ok ⟨405, none⟩)
  | .found action =>
    match s.perform now r.body action with
    | (t, .ok v) => (t, .ok (success v))
    | (t, .error why) =>
      (t, match why.response? with
        | some response => .ok response
        | none => .error why)

/-- A refused request leaves the stored flows as they are. -/
theorem store_perform_of_refused {s : Service} {now : Time.Timestamp} {body : List UInt8} {a : Action} {why : Refusal}
    (h : (s.perform now body a).2 = .error why) : (s.perform now body a).1.store = s.store := by
  cases a with
  | catalog => rfl
  | listFlows => rfl
  | validate => rfl
  | loadFlow id => rfl
  | cancel id => rfl
  | run =>
    simp only [perform, run]
    split <;> rfl
  | saveFlow id =>
    simp only [perform, changed] at h ⊢
    split
    · next heq => simp [heq] at h
    · rfl
  | deleteFlow id =>
    simp only [perform, changed] at h ⊢
    split
    · next heq => simp [heq] at h
    · rfl

end Service

end IntegrationFlow.Server
