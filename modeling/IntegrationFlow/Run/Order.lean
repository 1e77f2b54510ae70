import IntegrationFlow.Flow.Reachability

/-!
# The order of a run

A run visits the nodes that are reachable from the ingress, each after all nodes from which edges lead to it. An
`Agenda` counts, for every reachable node, the edges that lead to it from nodes that were not placed yet. A node without
such edges is ready; of the nodes that are ready, the one that is declared first is placed next.
-/

namespace IntegrationFlow.Run

/-- A node that is ready: the position of its declaration, and its id. -/
abbrev ReadyNode := Nat × String

/-- The state of an ordering. -/
structure Agenda where
  /-- How many edges lead to the reachable nodes from nodes that were not placed yet. -/
  indegree : List (String × Int)
  /-- The nodes that are ready and were not placed yet, the one that is declared first in front. -/
  ready : List ReadyNode := []
  placed : List Node := []

namespace Agenda

/-- Put a node among those that are ready. -/
def push (r : ReadyNode) : List ReadyNode → List ReadyNode
  | [] => [r]
  | first :: others => if r.1 ≤ first.1 then r :: first :: others else first :: push r others

/-- The ready node that a node is. -/
def entry (f : Flow) (id : String) : ReadyNode :=
  (f.nodeIds.idxOf id, id)

/-- One edge less leads to a node; with the last one gone the node is ready. -/
def release (f : Flow) (a : Agenda) (id : String) : Agenda :=
  match a.indegree.lookup id with
  | none => a
  | some degree =>
    { a with
      indegree := (id, degree - 1) :: a.indegree
      ready := if degree - 1 = 0 then push (entry f id) a.ready else a.ready }

/-- Place the first node that is ready, and release the nodes to which its edges lead. -/
def step (f : Flow) (a : Agenda) : Agenda :=
  match a.ready with
  | [] => a
  | first :: others =>
    ((f.outgoing first.2).map (·.target)).foldl (release f)
      { a with ready := others, placed := a.placed ++ (f.nodes[first.1]?).toList }

/-- Make so many steps. -/
def run (f : Flow) : Nat → Agenda → Agenda
  | 0, a => a
  | steps + 1, a => run f steps (a.step f)

/-- How many edges lead to a node from reachable ones. -/
def degreeIn (f : Flow) (reached : List String) (id : String) : Nat :=
  (f.incoming id).countP fun e => reached.contains e.source

/-- Nothing is placed yet; the nodes to which no edges lead are ready. -/
def start (f : Flow) (reached : List String) : Agenda where
  indegree := reached.map fun id => (id, degreeIn f reached id)
  ready := ((reached.filter fun id => degreeIn f reached id = 0).map (entry f)).foldr push []

end Agenda

/-- The nodes that are reachable from an ingress in the order of a run; nothing when a cycle keeps some of them from
ever being ready. Every step places one node, so one step for each reachable node is enough. -/
def executionOrder? (f : Flow) (ingress : Node) : Option (List Node) :=
  let reached := f.reachable ingress.id
  let order := ((Agenda.start f reached).run f reached.length).placed
  if order.length = reached.length then some order else none

end IntegrationFlow.Run
