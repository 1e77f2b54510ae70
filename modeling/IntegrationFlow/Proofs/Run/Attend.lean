import IntegrationFlow.Proofs.Run.Visit

/-!
# A visit in two parts

First a node is attended to: when nothing comes in, nothing is done, else the node takes its input and is carried out.
Then the visit is completed: the node is recorded and its edges are set (`visit_eq`).
-/

namespace IntegrationFlow.Run

open Simulation Sim

/-- Carry out a node on an input, up to its outcome. -/
def engage (env : Env) (n : Node) (input : Cell) (incoming : Signal) : Sim NodeOutcome := do
  store (.input n.id) input
  modify fun s => { s with invoked := (n.id, incoming) :: s.invoked }
  invoke env n incoming

/-- What the edges that carry something hand over, each from its place. -/
def sourcesOf (live : List (Edge × Signal)) : List (Edge × Place) :=
  live.filterMap fun (e, s) => s.payload?.map fun p => (e, p)

/-- Take the input of a node and carry the node out; without an input it fails. -/
def engageFrom (env : Env) (n : Node) (t : NodeType) (live : List (Edge × Signal)) : Sim NodeOutcome := do
  match ← inputOf n t (sourcesOf live) with
  | .ok input => engage env n input (merge (.input n.id) (live.map (·.2)))
  | .error (.crashed m) => throw (.crashed m)
  | .error (.failed cause) =>
    store (.input n.id) (← rawInput n (sourcesOf live))
    finishTiming env n (.failed n.id cause)

/-- Attend to a node behind the ingress. -/
def attendInner (env : Env) (n : Node) (t : NodeType) : Sim (Option (NodeOutcome × Signal)) := do
  let live := liveEdges env.flow (← get).signals n
  if live.isEmpty then return none
  else return some (← engageFrom env n t live, merge (.input n.id) (live.map (·.2)))

/-- Attend to a node: its outcome and what has come in, unless nothing has. -/
def attend (env : Env) (n : Node) : Sim (Option (NodeOutcome × Signal)) := do
  let t ← typeOf env n
  if t.category == .input then
    return some (← engage env n (.ofValue (Place.input n.id).site env.input) (.active (.input n.id) none),
      .active (.input n.id) none)
  else attendInner env n t

/-- Record what was done at a node, and set what its edges carry. -/
def complete (env : Env) (n : Node) : Option (NodeOutcome × Signal) → Sim Unit
  | none => skip env n
  | some (o, incoming) => conclude env n o incoming

theorem visitInner_eq (env : Env) (n : Node) (t : NodeType) : visitInner env n t = attendInner env n t >>= complete env n := by
  unfold visitInner attendInner
  rw [bind_assoc]
  congr 1
  funext s
  dsimp only
  cases hlive : liveEdges env.flow s.signals n with
  | nil => rfl
  | cons first rest =>
    rw [if_neg (by simp), bind_assoc, engageFrom, bind_assoc]
    refine bind_congr fun input => ?_
    rcases input with (cause | m) | input
    · simp only [bind_assoc, pure_bind, complete, sourcesOf]
    · rfl
    · simp only [bind_assoc, pure_bind, proceed, engage, complete]

/-- A visit attends to the node and completes what it has found there. -/
theorem visit_eq (env : Env) (n : Node) : visit env n = attend env n >>= complete env n := by
  unfold visit attend
  rw [bind_assoc]
  congr 1
  funext t
  split
  · simp only [bind_assoc, pure_bind, proceed, engage, complete]
  · exact visitInner_eq env n t

/-- Only edges of the flow carry something to a node. -/
theorem mem_edges_of_mem_sourcesOf {f : Flow} {signals : List (String × Signal)} {n : Node} :
    ∀ x ∈ sourcesOf (liveEdges f signals n), x.1 ∈ f.edges := by
  intro x hx
  obtain ⟨y, hy, hsome⟩ := List.mem_filterMap.1 hx
  obtain ⟨p, -, rfl⟩ := Option.map_eq_some_iff.1 hsome
  obtain ⟨e, he, rfl⟩ := List.mem_map.1 (List.mem_filter.1 hy).1
  exact (Flow.mem_incoming.1 he).1

end IntegrationFlow.Run
