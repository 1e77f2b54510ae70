import IntegrationFlow.Table

/-!
# How an engine lets runs in

An engine keeps three tables by flow: the lock that the runs of a flow take in turn, how many runs use that lock, and
the flag by which the run that is on is cancelled. Locks and flags are objects of their own: a run goes on with the lock
and the flag that it was given, whatever the tables say by then. Every object has a number, and so has every run, in the
order in which the runs were started.
-/

namespace IntegrationFlow.Run

/-- A lock that is given to those who ask for it in the order in which they ask. -/
structure Lock where
  held : Bool := false
  /-- The runs that have asked for it and wait. -/
  waiting : List Nat := []
deriving DecidableEq

namespace Lock

/-- It is given at once: nobody holds it or waits for it. -/
def isFree (l : Lock) : Bool :=
  !l.held && l.waiting.isEmpty

/-- It is given to a run next: nobody holds it, and nobody has asked for it before. -/
def isNext (l : Lock) (run : Nat) : Bool :=
  !l.held && l.waiting.head? == some run

def give (l : Lock) (run : Nat) : Lock :=
  { held := true, waiting := l.waiting.erase run }

def wait (l : Lock) (run : Nat) : Lock :=
  { l with waiting := l.waiting ++ [run] }

def giveUp (l : Lock) (run : Nat) : Lock :=
  { l with waiting := l.waiting.erase run }

/-- A lock that nobody holds cannot be released. -/
def release (l : Lock) : Option Lock :=
  if l.held then some { l with held := false } else none

end Lock

/-- What a run does that was started and has not ended. -/
inductive Phase where
  /-- It waits for its lock. -/
  | waiting
  /-- It is on, and a flag cancels it. -/
  | executing (flag : Nat)
deriving DecidableEq

def Phase.isExecuting : Phase → Bool
  | .waiting => false
  | .executing _ => true

/-- A run that was started and has not ended. -/
structure Pending where
  run : Nat
  flow : String
  /-- The lock that it holds or waits for. -/
  lock : Nat
  phase : Phase := .waiting
deriving DecidableEq

/-- A run is on from now on, when it has the number. -/
def Pending.begun (run flag : Nat) (p : Pending) : Pending :=
  if p.run = run then { p with phase := .executing flag } else p

/-- The tables of an engine, its locks and flags, and its runs. -/
structure Admission where
  /-- The lock of a flow. -/
  locks : String → Option Nat := fun _ => none
  /-- How many runs use the lock of a flow. -/
  users : String → Option Int := fun _ => none
  /-- The flag of the run of a flow that is on. -/
  flags : String → Option Nat := fun _ => none
  lockAt : Nat → Lock := fun _ => {}
  /-- Whether a flag is raised. -/
  raised : Nat → Bool := fun _ => false
  /-- The runs that have not ended, in the order in which they were started. -/
  pending : List Pending := []
  /-- How many objects were made. -/
  made : Nat := 0
  /-- How many runs were started. -/
  started : Nat := 0

namespace Admission

/-- The turn of a run that waits has come. -/
def canBegin (s : Admission) (p : Pending) : Bool :=
  (s.lockAt p.lock).isNext p.run

/-- A run that has not ended, by its number, when it can do something. -/
def run? (s : Admission) (run : Nat) (can : Pending → Bool) : Option Pending :=
  s.pending.find? fun p => p.run == run && can p

def setLock (s : Admission) (lock : Nat) (l : Lock) : Admission :=
  { s with lockAt := Table.put s.lockAt lock l }

/-- A run is given its lock and begins, with a new flag that it shares with the table of its flow. -/
def begin (s : Admission) (p : Pending) : Admission :=
  { s.setLock p.lock ((s.lockAt p.lock).give p.run) with
    flags := Table.put s.flags p.flow (some s.made)
    raised := Table.put s.raised s.made false
    pending := s.pending.map (.begun p.run s.made)
    made := s.made + 1 }

/-- A run arrives: it uses the lock of its flow, or a new one when its flow has none. -/
def arrive (s : Admission) (p : Pending) : Admission :=
  { s.setLock s.made {} with
    locks := Table.put s.locks p.flow (some p.lock)
    users := Table.put s.users p.flow (some ((s.users p.flow).getD 0 + 1))
    pending := s.pending ++ [p]
    made := s.made + 1
    started := s.started + 1 }

/-- The run of a flow that is started next. -/
def newcomer (s : Admission) (flow : String) : Pending :=
  { run := s.started, flow, lock := (s.locks flow).getD s.made }

/-- Start a run: it begins at once when its lock is free, else it waits. -/
def start (s : Admission) (flow : String) : Admission :=
  let p := s.newcomer flow
  let t := s.arrive p
  if (t.lockAt p.lock).isFree then t.begin p else t.setLock p.lock ((t.lockAt p.lock).wait p.run)

/-- A run leaves, and the last one that uses a lock drops it from the tables. -/
def leave (s : Admission) (p : Pending) : Option Admission := do
  let n ← s.users p.flow
  let t := { s with pending := s.pending.filter (·.run != p.run) }
  if n - 1 = 0 then
    let _ ← s.locks p.flow
    return { t with users := Table.put s.users p.flow none, locks := Table.put s.locks p.flow none }
  return { t with users := Table.put s.users p.flow (some (n - 1)) }

/-- The run that is on gives its lock back, and the table of the flags forgets its flow. -/
def giveBack (s : Admission) (p : Pending) (l : Lock) : Admission :=
  { s.setLock p.lock l with flags := Table.put s.flags p.flow none }

/-- A run that is on ends, with a trace or with an exception. -/
def finish (s : Admission) (p : Pending) : Option Admission :=
  (s.lockAt p.lock).release.bind fun l => (s.giveBack p l).leave p

/-- A run that waits is given up. -/
def abandon (s : Admission) (p : Pending) : Option Admission :=
  (s.setLock p.lock ((s.lockAt p.lock).giveUp p.run)).leave p

/-- A run of the flow is on. -/
def isRunning (s : Admission) (flow : String) : Bool :=
  (s.flags flow).isSome

/-- Cancel the run of a flow that is on; whether there is one. -/
def cancel (s : Admission) (flow : String) : Bool × Admission :=
  match s.flags flow with
  | none => (false, s)
  | some flag => (true, { s with raised := Table.put s.raised flag true })

/-- A run was told to end: the flag is raised that it was given. -/
def isCancelled (s : Admission) (p : Pending) : Bool :=
  match p.phase with
  | .waiting => false
  | .executing flag => s.raised flag

/-- What can happen to an engine. -/
inductive Act where
  | start (flow : String)
  | acquire (run : Nat)
  | finish (run : Nat)
  | abandon (run : Nat)
  | cancel (flow : String)
deriving DecidableEq

/-- Something happens to an engine; what a run cannot do does not happen. There is no result where a table does not have
the key that it is asked for, or where a lock is released that nobody holds. -/
def Act.apply (s : Admission) : Act → Option Admission
  | .start flow => some (s.start flow)
  | .acquire run => (s.run? run s.canBegin).elim (some s) fun p => some (s.begin p)
  | .finish run => (s.run? run (·.phase.isExecuting)).elim (some s) s.finish
  | .abandon run => (s.run? run (!·.phase.isExecuting)).elim (some s) s.abandon
  | .cancel flow => some (s.cancel flow).2

/-- An engine after several things have happened to it. -/
def after (s : Admission) (acts : List Act) : Option Admission :=
  acts.foldlM Act.apply s

end Admission

end IntegrationFlow.Run
