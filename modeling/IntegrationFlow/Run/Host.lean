import IntegrationFlow.Run.Admission
import IntegrationFlow.Run.Engine

/-!
# Runs on an engine that others use, too

`Engine.host` is the whole way of a run through an engine: the flow is checked, the run waits for its turn, it is on
from its first moment to its last one, and then it leaves. Others act on the tables of the engine while the run waits,
and at every moment at which they get a word in. Whether the run is cancelled is for the tables to say.
-/

namespace IntegrationFlow.Run

namespace Admission

/-- The run that has to do it itself. -/
def Act.run? : Act → Option Nat
  | .start _ => none
  | .acquire run => some run
  | .finish run => some run
  | .abandon run => some run
  | .cancel _ => none

/-- What others can do of several things: not what is for a run itself to do. -/
def Act.ofOthers (run : Nat) (acts : List Act) : List Act :=
  acts.filter (·.run? != some run)

end Admission

open Admission (Act)

/-- The others who use an engine besides a run. -/
structure Company where
  /-- What they do while the run waits for its turn. -/
  before : List Act := []
  /-- What they do at the latest of the moments so far. -/
  during : List Moment → List Act := fun _ => []

/-- What others have done since a run has begun, at all the moments so far. -/
def Company.acts (c : Company) (run : Nat) (moments : List Moment) : List Act :=
  Act.ofOthers run ((List.range moments.length).flatMap fun k => c.during (moments.take (k + 1)))

/-- A run whose turn has come, and the tables of the engine when it begins. -/
structure Admitted where
  run : Pending
  tables : Admission

/-- Start a run of a flow. When it does not begin at once, it waits for its turn while others act; there is no result when
its turn does not come. -/
def Admission.letIn (s : Admission) (flow : String) (before : List Act) : Option Admitted :=
  let t := s.start flow
  match t.run? s.started (·.phase.isExecuting) with
  | some p => some ⟨p, t⟩
  | none => do
    let t ← t.after (Act.ofOthers s.started before)
    let p ← t.run? s.started t.canBegin
    return ⟨p.begun p.run t.made, t.begin p⟩

/-- What others have done at the moments so far has raised the flag that was given to the run. -/
def Admitted.isCancelled (a : Admitted) (c : Company) (moments : List Moment) : Bool :=
  (a.tables.after (c.acts a.run.run moments)).any (·.isCancelled a.run)

/-- The request of a run that is on among others. -/
def Request.among (r : Request) (a : Admitted) (c : Company) : Request :=
  { r with cancels := a.isCancelled c }

/-- A run that has gone its way through an engine. -/
structure Hosted where
  admitted : Admitted
  report : Report
  /-- The tables of the engine when the run has left. -/
  tables : Admission

/-- Check a flow, wait for the turn of its run, carry the run out and let it leave; a flow with errors is refused before
anything else happens. There is no result when the turn of the run does not come. -/
def Engine.host (engine : Engine) (s : Admission) (f : Flow) (r : Request) (c : Company) :
    Except GraphError (Option Hosted) :=
  match Validator.ensureValid engine.registry f with
  | .error e => .error e
  | .ok _ => .ok do
    let admitted ← s.letIn f.id c.before
    let report := execute ((r.among admitted c).env engine f) r.openCircuits
    let tables ← admitted.tables.after (c.acts admitted.run.run report.moments)
    let tables ← (Act.finish admitted.run.run).apply tables
    return ⟨admitted, report, tables⟩

end IntegrationFlow.Run
