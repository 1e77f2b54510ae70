import IntegrationFlow.Editor.Edit

/-!
# Editing sessions

A session holds a flow that is being edited and the listeners who want to hear of its changes. `Session.edit` carries
out one edit: either it is refused and the flow stays as it is (`edit_flow_of_refused`), or every listener is told once, in
the order in which they joined.
-/

namespace IntegrationFlow.Editor

/-- Someone who wants to hear of changes. -/
structure Listener where
  /-- Tells apart listeners of one name. -/
  number : Nat
  name : String
deriving DecidableEq, Inhabited

/-- What a listener is told: the change, and the flow after it. -/
structure Notice where
  listener : String
  flow : Flow
  change : Change

/-- A flow that is being edited. -/
structure Session where
  registry : Registry
  flow : Flow
  ids : IdSupply := {}
  listeners : List Listener := []
  /-- How many listeners have joined. -/
  joined : Nat := 0

namespace Session

/-- A session on a new flow, which has no nodes yet. -/
def create (registry : Registry) (ids : IdSupply) (now : Time.Timestamp) (name : String) : Session :=
  let (id, ids) := ids.draw "flow"
  { registry, ids, flow := { id, name, createdAt := now, updatedAt := now } }

/-- Add a listener. -/
def subscribe (s : Session) (name : String) : Session :=
  { s with listeners := s.listeners ++ [⟨s.joined + 1, name⟩], joined := s.joined + 1 }

/-- Remove a listener. -/
def unsubscribe (s : Session) (number : Nat) : Session :=
  { s with listeners := s.listeners.filter (·.number != number) }

/-- The number of the latest listener of a name. -/
def latest? (s : Session) (name : String) : Option Nat :=
  (s.listeners.reverse.find? (·.name == name)).map (·.number)

/-- What the listeners are told of a change. -/
def notices (s : Session) (flow : Flow) (change : Change) : List Notice :=
  s.listeners.map fun l => ⟨l.name, flow, change⟩

/-- Carry out an edit: the session after it, and what the listeners are told, or the reason why it is refused. -/
def edit (s : Session) (now : Time.Timestamp) (e : Edit) : Session × Except Refusal (Change × List Notice) :=
  match (carryOut s.registry now s.flow e).run.run s.ids with
  | (.error why, ids) => ({ s with ids }, .error why)
  | (.ok (flow, change), ids) => ({ s with flow, ids }, .ok (change, s.notices flow change))

/-- A refused edit leaves the flow as it is. -/
theorem edit_flow_of_refused {s : Session} {now : Time.Timestamp} {e : Edit} {why : Refusal}
    (h : (s.edit now e).2 = .error why) : (s.edit now e).1.flow = s.flow := by
  unfold edit at h ⊢
  split
  · rfl
  · next heq => simp [heq] at h

/-- Editing does not change who listens. -/
theorem edit_listeners (s : Session) (now : Time.Timestamp) (e : Edit) : (s.edit now e).1.listeners = s.listeners := by
  unfold edit
  split <;> rfl

end Session

end IntegrationFlow.Editor
