import IntegrationFlow.Flow.Mapping

/-!
# The values of a run

The inputs and outputs of the nodes of a run. What one of them holds may be part of another one: a node that passes its
input on has that very input as its output. So a write reaches all values that hold the written object.
-/

namespace IntegrationFlow.Run

/-- A value of a run: the input or the output of a node, or what a node gave when a handler tried it again. -/
inductive Place where
  | input (node : String)
  | output (node : String)
  | retried (handler : String)
deriving DecidableEq

/-- Where the objects of a value arise. -/
def Place.site : Place → Site
  | .input node => [.name node, .name "input"]
  | .output node => [.name node, .name "output"]
  | .retried handler => [.name handler, .name "retried"]

/-- The values of a run. -/
structure Documents where
  cells : List (Place × Cell) := []

namespace Documents

/-- The value of a place; null where there is none. -/
def read (d : Documents) (p : Place) : Cell :=
  (d.cells.lookup p).getD (.atom .only .null)

/-- Store a value at a place. -/
def store (d : Documents) (p : Place) (c : Cell) : Documents :=
  { cells := (p, c) :: d.cells.filter (·.1 != p) }

/-- Carry out a write. -/
def write (d : Documents) (w : Write) : Documents :=
  { cells := d.cells.map fun e => (e.1, w.apply e.2) }

/-- Carry out several writes. -/
def writeAll (d : Documents) (ws : List Write) : Documents :=
  ws.foldl write d

/-- What was stored is read. -/
theorem read_store_self (d : Documents) (p : Place) (c : Cell) : (d.store p c).read p = c := by
  simp [read, store]

/-- Nothing is changed by no writes. -/
theorem writeAll_nil (d : Documents) : d.writeAll [] = d := rfl

end Documents

end IntegrationFlow.Run
