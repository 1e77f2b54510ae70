import IntegrationFlow.Flow.Basic

/-!
# Cycles

A depth-first search over the nodes of a flow. `Search.trail` is the path from the node where the search began to the
node where it is, each with the edges that are still to be followed; an edge that leads back to a node on the trail
closes a cycle. Of several such edges with one id the first is reported.
-/

namespace IntegrationFlow.Flow

/-- The state of a depth-first search. -/
structure Search where
  /-- The nodes on the way to the current one, the current one first, with their edges that are not yet followed. -/
  trail : List (String × List Edge) := []
  /-- The nodes that were entered. -/
  entered : List String := []
  /-- The edges that close a cycle. -/
  closing : List Edge := []

namespace Search

/-- The node is on the trail. -/
def onTrail (s : Search) (id : String) : Bool :=
  s.trail.any (·.1 == id)

/-- Enter a node. -/
def enter (f : Flow) (s : Search) (id : String) : Search :=
  { s with trail := (id, f.outgoing id) :: s.trail, entered := id :: s.entered }

/-- Report an edge that closes a cycle, unless one with its id was reported before. -/
def report (s : Search) (e : Edge) : Search :=
  if s.closing.any (·.id == e.id) then s else { s with closing := s.closing ++ [e] }

/-- Follow the next edge of the current node, or leave the node when it has none left. -/
def step (f : Flow) (s : Search) : Search :=
  match s.trail with
  | [] => s
  | (_, []) :: rest => { s with trail := rest }
  | (id, e :: es) :: rest =>
    let s := { s with trail := (id, es) :: rest }
    if s.onTrail e.target then s.report e
    else if s.entered.contains e.target || (f.node? e.target).isNone then s
    else s.enter f e.target

/-- Make at most `fuel` steps. -/
def run (f : Flow) : Nat → Search → Search
  | 0, s => s
  | fuel + 1, s => run f fuel (s.step f)

/-- Search from a node that was not entered yet. Every edge is followed once, and every node is left once. -/
def searchFrom (f : Flow) (s : Search) (id : String) : Search :=
  if s.entered.contains id then s else run f (f.edges.length + f.nodes.length + 1) (s.enter f id)

end Search

/-- The edges that close cycles, in the order in which the search finds them. -/
def closingEdges (f : Flow) : List Edge :=
  (f.nodes.foldl (fun s n => s.searchFrom f n.id) {} : Search).closing

end IntegrationFlow.Flow
