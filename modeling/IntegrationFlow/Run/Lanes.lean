/-!
# Runs side by side

Runs of one flow take turns, in the order in which they were started; runs of different flows do not wait for each
other. Every flow with runs has a lane: the run that is on, the runs that wait, and how many there are in all. A lane is
given up with its last run.
-/

namespace IntegrationFlow.Run

/-- The runs of one flow, by their numbers. -/
structure Lane where
  /-- The run whose turn it is. -/
  holder? : Option Nat := none
  waiting : List Nat := []
  /-- How many runs hold the lane or wait for it. -/
  users : Nat := 0
deriving DecidableEq

/-- A run that is on. -/
structure Active where
  run : Nat
  cancelled : Bool := false
deriving DecidableEq

/-- The lanes of all flows, and the runs that are on. -/
structure Lanes where
  lanes : List (String × Lane) := []
  active : List (String × Active) := []
deriving DecidableEq

namespace Lanes

/-- The lane of a flow; an empty one when it has none. -/
def lane (s : Lanes) (flow : String) : Lane :=
  (s.lanes.lookup flow).getD {}

/-- Set the lane of a flow; a lane without runs is given up. -/
def setLane (s : Lanes) (flow : String) (l : Lane) : Lanes :=
  let others := s.lanes.filter (·.1 != flow)
  { s with lanes := if l.users = 0 then others else (flow, l) :: others }

/-- A run begins. -/
def begin (s : Lanes) (flow : String) (run : Nat) : Lanes :=
  { s with active := (flow, ⟨run, false⟩) :: s.active.filter (·.1 != flow) }

/-- Start a run: it begins at once when no other run of its flow is on or waits, else it waits. -/
def start (s : Lanes) (flow : String) (run : Nat) : Lanes :=
  let l := s.lane flow
  if l.holder?.isNone && l.waiting.isEmpty then
    (s.setLane flow { l with holder? := some run, users := l.users + 1 }).begin flow run
  else s.setLane flow { l with waiting := l.waiting ++ [run], users := l.users + 1 }

/-- The first run that waits begins, when none is on. -/
def acquire (s : Lanes) (flow : String) : Lanes :=
  let l := s.lane flow
  match l.holder?, l.waiting with
  | none, run :: rest => (s.setLane flow { l with holder? := some run, waiting := rest }).begin flow run
  | _, _ => s

/-- The run that is on ends. -/
def finish (s : Lanes) (flow : String) : Lanes :=
  let l := s.lane flow
  match l.holder? with
  | some _ =>
    let s := s.setLane flow { l with holder? := none, users := l.users - 1 }
    { s with active := s.active.filter (·.1 != flow) }
  | none => s

/-- A run that waits is given up. -/
def abandon (s : Lanes) (flow : String) (run : Nat) : Lanes :=
  let l := s.lane flow
  if l.waiting.contains run then s.setLane flow { l with waiting := l.waiting.erase run, users := l.users - 1 } else s

/-- A run of the flow is on. -/
def isRunning (s : Lanes) (flow : String) : Bool :=
  (s.active.lookup flow).isSome

/-- Cancel the run of a flow that is on; whether there is one. -/
def cancel (s : Lanes) (flow : String) : Bool × Lanes :=
  (s.isRunning flow,
    { s with active := s.active.map fun e => if e.1 == flow then (e.1, { e.2 with cancelled := true }) else e })

/-- How many lanes there are. -/
def size (s : Lanes) : Nat :=
  s.lanes.length

end Lanes

end IntegrationFlow.Run
