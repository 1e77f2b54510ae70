import IntegrationFlow.Run.Visit
import IntegrationFlow.Run.Order
import IntegrationFlow.Validator

/-!
# Running flows

`Engine.run` checks a flow, visits its nodes in order, and reports the trace of the run and the events that were
published. A run is cancelled between two nodes; what was recorded before stays in the trace.
-/

namespace IntegrationFlow.Run

open Simulation

/-- The ingress of a flow: the first node of an input type. All nodes in front of it must be of known types. -/
def ingressOf (env : Env) : List Node → Sim Node
  | [] => Sim.fault (.noIngress env.flow.id)
  | n :: ns => do
    let t ← Sim.typeOf env n
    if t.category == .input then return n else ingressOf env ns

/-- The nodes of a run in order. -/
def orderOf (env : Env) : Sim (List Node) := do
  let ingress ← ingressOf env env.flow.nodes
  match executionOrder? env.flow ingress with
  | some order => return order
  | none => Sim.fault (.unordered env.flow.id)

/-- Visit the nodes one after another until the run is cancelled; whether it was not. -/
def visitAll (env : Env) : List Node → Sim Bool
  | [] => return true
  | n :: ns => do
    if (← get).cancelled then
      Sim.transition .cancelled
      return false
    else
      visit env n
      visitAll env ns

/-- Carry out a run. -/
def simulate (env : Env) : Sim Unit := do
  Sim.transition .running
  Sim.publish env (.runStarted env.flow.id env.execution env.input)
  let order ← orderOf env
  if ← visitAll env order then
    Sim.transition (if (← get).unrecovered.isEmpty then .success else .error)
  else pure ()

/-- The error text of a run that has ended without a fault. -/
def errorText (s : State) : Option String :=
  if s.status == .cancelled then some "Run cancelled" else s.unrecovered.head?.map Failure.summary

/-- The trace of a run. -/
def traceOf (env : Env) (s : State) (fault? : Option Fault) : Trace where
  flow := env.flow.id
  execution := env.execution
  status := s.status
  duration := s.clock.now
  steps := s.records.map (·.toStep s.documents)
  error? := match fault? with
    | some f => some ("EngineFault: " ++ f.message)
    | none => errorText s
  fault? := fault?.map Fault.message

/-- Why a run has no trace. -/
inductive Escape where
  | crashed (m : Expression.Mishap)
  /-- A step that was to be published has no JSON form. -/
  | unwritable (why : Json.Unwritable)

/-- What a run leaves behind. -/
structure Report where
  trace : Except Escape Trace
  moments : List Moment

/-- The events of a run. -/
def Report.events (r : Report) : List Event :=
  r.moments.filterMap Moment.event?

/-- The state in which a run begins. -/
def initialState (env : Env) (openCircuits : List String) : State :=
  { breakers := .start env.engine.policy openCircuits }

/-- Publish the end of a run. -/
def publishEnd (env : Env) (s : State) (e : Event) : State :=
  match Sim.publish env e s with
  | .ok _ s => s
  | .error _ s => s

/-- Carry out a run from its beginning to its end. -/
def execute (env : Env) (openCircuits : List String) : Report :=
  match simulate env (initialState env openCircuits) with
  | .ok _ s =>
    let trace := traceOf env s none
    let s := publishEnd env s
      (.runFinished env.flow.id env.execution trace.status.name (.int trace.duration) (optionalText trace.error?))
    ⟨.ok trace, s.moments⟩
  | .error (.fault f) s =>
    let s := { s with status := RunStatus.error }
    let s := publishEnd env s (.engineFault env.flow.id env.execution f.message)
    ⟨.ok (traceOf env s (some f)), s.moments⟩
  | .error (.crashed m) s => ⟨.error (.crashed m), s.moments⟩
  | .error (.unwritable why) s => ⟨.error (.unwritable why), s.moments⟩

/-- What a run is started with. -/
structure Request where
  input : Value := .null
  execution : String
  openCircuits : List String := []
  observed : Bool := false
  cancels : List Moment → Bool := fun _ => false

/-- What a requested run is about. -/
def Request.env (r : Request) (engine : Engine) (f : Flow) : Env :=
  ⟨engine, f, r.input, r.execution, r.observed, r.cancels⟩

/-- Check a flow and run it; a flow with errors is refused before a run begins. -/
def Engine.run (engine : Engine) (f : Flow) (r : Request) : Except GraphError Report :=
  match Validator.ensureValid engine.registry f with
  | .error e => .error e
  | .ok _ => .ok (execute (r.env engine f) r.openCircuits)

/-- A flow with errors is never run. -/
theorem Engine.run_eq_error_iff {engine : Engine} {f : Flow} {r : Request} {e : GraphError} :
    engine.run f r = .error e ↔ Validator.ensureValid engine.registry f = .error e := by
  unfold Engine.run
  cases Validator.ensureValid engine.registry f <;> simp

end IntegrationFlow.Run
