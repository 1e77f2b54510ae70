import IntegrationFlow.Event.Bus
import IntegrationFlow.Table

/-!
# Traffic on an event bus

Behind every subscription of a bus there is a handler, which a delivery calls. Deliveries are made side by side, but a
delivery holds one of a few slots while its handler is at work; it gives the slot back whether or not the handler raises an
error. A wait for an event is a subscription, too: its handler keeps the first event for the waiter, who goes on with it
later, or without one when the time limit runs out before, and ends the subscription.

`Act` is what can happen: the next event is published only when all deliveries of the last one are made, but all else goes
on side by side, in any order.
-/

namespace IntegrationFlow

namespace Traffic

/-- How a wait goes on. -/
inductive Wait where
  | awaited
  /-- An event has arrived; the waiter has not gone on yet. -/
  | arrived (e : Event)
  /-- The time limit has run out; the waiter has not gone on yet. -/
  | expired
  /-- The waiter has gone on, with an event or without one. -/
  | finished (result? : Option Event)

namespace Wait

/-- An event arrives. The first one is kept, unless the time limit has run out before. -/
def receive (e : Event) : Wait → Wait
  | .awaited => .arrived e
  | w => w

/-- The time limit can still run out. When it does so before the waiter goes on, an event may have arrived for nothing. -/
def canExpire : Wait → Bool
  | .awaited | .arrived _ => true
  | .expired | .finished _ => false

/-- What a waiter can go on with. -/
def outcome? : Wait → Option (Option Event)
  | .arrived e => some (some e)
  | .expired => some none
  | .awaited | .finished _ => none

end Wait

/-- Who is behind a subscription. -/
inductive Handler where
  /-- It takes note of all events, and raises an error for some of them. -/
  | recorder (fails : Event → Bool)
  /-- It keeps the first event for a waiter. -/
  | waiter (w : Wait)

namespace Handler

/-- A handler after it was called with an event. -/
def receive (e : Event) : Handler → Handler
  | .recorder fails => .recorder fails
  | .waiter w => .waiter (w.receive e)

/-- A handler raises an error when it is called with an event. -/
def raises (e : Event) : Handler → Bool
  | .recorder fails => fails e
  | .waiter _ => false

/-- The wait of a waiter. -/
def wait? : Handler → Option Wait
  | .recorder _ => none
  | .waiter w => some w

end Handler

end Traffic

open Traffic in
/-- A bus, the handlers of its subscriptions, and the deliveries that are under way. -/
structure Traffic where
  bus : Bus := {}
  /-- The ids that were given to subscriptions, in the order in which these were made. -/
  ids : List String := []
  /-- The handler behind each subscription. It is there for deliveries under way when the subscription has ended, too. -/
  handlers : String → Option Handler := fun _ => none
  /-- How many slots are free. -/
  free : Nat := 10
  /-- The deliveries that wait for a slot. -/
  queued : List Delivery := []
  /-- The deliveries that hold a slot. -/
  held : List Delivery := []
  /-- The calls of handlers, in order. -/
  calls : List Delivery := []
  /-- The calls that have raised an error. -/
  errors : List Delivery := []

namespace Traffic

/-- What can happen on a bus. -/
inductive Act where
  | subscribe (interest : Interest) (fails : Event → Bool)
  | unsubscribe (id : String)
  | publish (time : Time.Timestamp) (e : Event)
  /-- Someone begins to wait for an event of a type, of any flow and any run or of one. -/
  | wait (type : EventType) (flow? execution? : Option String)
  /-- The time limit of a waiter runs out. -/
  | expire (id : String)
  /-- A waiter goes on. -/
  | resume (id : String)
  /-- A delivery takes a slot. -/
  | begin (position : Nat)
  /-- A delivery calls its handler and gives its slot back. -/
  | call (position : Nat)

/-- A bus that holds so many events, with so many slots. -/
def start (capacity slots : Nat) : Traffic :=
  { bus := { capacity }, free := slots }

/-- No delivery is under way. -/
def isQuiet (t : Traffic) : Bool :=
  t.queued.isEmpty && t.held.isEmpty

/-- The wait behind a subscription. -/
def wait? (t : Traffic) (id : String) : Option Wait :=
  (t.handlers id).bind (·.wait?)

/-- Replace the handler of a subscription. -/
def setHandler (t : Traffic) (id : String) (h : Handler) : Traffic :=
  { t with handlers := Table.put t.handlers id (some h) }

/-- Make a subscription for a handler. -/
def join (t : Traffic) (interest : Interest) (h : Handler) : Traffic :=
  let (bus, s) := t.bus.subscribe interest
  { t with bus, ids := t.ids ++ [s.id], handlers := Table.put t.handlers s.id (some h) }

/-- End a subscription. -/
def leave (t : Traffic) (id : String) : Traffic :=
  { t with bus := t.bus.unsubscribe id }

/-- Publish an event, when nothing is under way. -/
def publish (t : Traffic) (time : Time.Timestamp) (e : Event) : Option Traffic :=
  if t.isQuiet then
    let (bus, deliveries) := t.bus.publish time e
    some { t with bus, queued := deliveries }
  else none

/-- What someone waits for. -/
def waitingFor (type : EventType) (flow? execution? : Option String) : Interest :=
  { types := [type], flow?, execution? }

/-- The time limit of a waiter runs out. -/
def expire (t : Traffic) (id : String) : Option Traffic := do
  let w ← t.wait? id
  if w.canExpire then return t.setHandler id (.waiter .expired) else none

/-- A waiter goes on, and its subscription ends. -/
def resume (t : Traffic) (id : String) : Option Traffic := do
  let w ← t.wait? id
  let result? ← w.outcome?
  return (t.setHandler id (.waiter (.finished result?))).leave id

/-- A delivery takes a slot, when one is free. -/
def begin (t : Traffic) (position : Nat) : Option Traffic := do
  let d ← t.queued[position]?
  if t.free = 0 then none
  else return { t with free := t.free - 1, queued := t.queued.eraseIdx position, held := t.held ++ [d] }

/-- A delivery that holds a slot calls its handler. An error is logged and goes no further. -/
def call (t : Traffic) (position : Nat) : Option Traffic := do
  let d ← t.held[position]?
  let h ← t.handlers d.subscription
  return { t.setHandler d.subscription (h.receive d.event) with
    free := t.free + 1
    held := t.held.eraseIdx position
    calls := t.calls ++ [d]
    errors := if h.raises d.event then t.errors ++ [d] else t.errors }

/-- Something happens on a bus; there is no result when it cannot happen. -/
def Act.apply (t : Traffic) : Act → Option Traffic
  | .subscribe interest fails => some (t.join interest (.recorder fails))
  | .unsubscribe id => some (t.leave id)
  | .publish time e => t.publish time e
  | .wait type flow? execution? => some (t.join (waitingFor type flow? execution?) (.waiter .awaited))
  | .expire id => t.expire id
  | .resume id => t.resume id
  | .begin position => t.begin position
  | .call position => t.call position

/-- A bus after several things have happened on it. -/
def after (t : Traffic) (acts : List Act) : Option Traffic :=
  acts.foldlM Act.apply t

section

variable {t t' : Traffic} {id : String} {position : Nat}

theorem isQuiet_iff : t.isQuiet = true ↔ t.queued = [] ∧ t.held = [] := by
  simp [isQuiet]

theorem publish_eq_some {time : Time.Timestamp} {e : Event} (h : t.publish time e = some t') :
    t.queued = [] ∧ t.held = [] ∧ t' = { t with bus := (t.bus.publish time e).1, queued := (t.bus.publish time e).2 } := by
  unfold publish at h
  split at h
  · next hquiet =>
    obtain ⟨hqueued, hheld⟩ := isQuiet_iff.1 hquiet
    exact ⟨hqueued, hheld, (Option.some.inj h).symm⟩
  · cases h

theorem expire_eq_some (h : t.expire id = some t') :
    ∃ w, t.wait? id = some w ∧ w.canExpire = true ∧ t' = t.setHandler id (.waiter .expired) := by
  obtain ⟨w, hw, h⟩ := Option.bind_eq_some_iff.1 h
  split at h
  · next hcan => exact ⟨w, hw, hcan, (Option.some.inj h).symm⟩
  · cases h

theorem resume_eq_some (h : t.resume id = some t') :
    ∃ w result?, t.wait? id = some w ∧ w.outcome? = some result? ∧
      t' = (t.setHandler id (.waiter (.finished result?))).leave id := by
  obtain ⟨w, hw, h⟩ := Option.bind_eq_some_iff.1 h
  obtain ⟨result?, hresult, h⟩ := Option.bind_eq_some_iff.1 h
  exact ⟨w, result?, hw, hresult, (Option.some.inj h).symm⟩

theorem resume_of_outcome {w : Wait} {result? : Option Event} (hw : t.wait? id = some w) (hresult : w.outcome? = some result?) :
    t.resume id = some ((t.setHandler id (.waiter (.finished result?))).leave id) := by
  simp [resume, hw, hresult]

theorem begin_eq_some (h : t.begin position = some t') :
    ∃ d, t.queued[position]? = some d ∧ 0 < t.free ∧
      t' = { t with free := t.free - 1, queued := t.queued.eraseIdx position, held := t.held ++ [d] } := by
  obtain ⟨d, hd, h⟩ := Option.bind_eq_some_iff.1 h
  split at h
  · cases h
  · next hfree => exact ⟨d, hd, Nat.pos_of_ne_zero hfree, (Option.some.inj h).symm⟩

theorem call_eq_some (h : t.call position = some t') :
    ∃ d handler, t.held[position]? = some d ∧ t.handlers d.subscription = some handler ∧
      t' = { t.setHandler d.subscription (handler.receive d.event) with
        free := t.free + 1
        held := t.held.eraseIdx position
        calls := t.calls ++ [d]
        errors := if handler.raises d.event then t.errors ++ [d] else t.errors } := by
  obtain ⟨d, hd, h⟩ := Option.bind_eq_some_iff.1 h
  obtain ⟨handler, hhandler, h⟩ := Option.bind_eq_some_iff.1 h
  exact ⟨d, handler, hd, hhandler, (Option.some.inj h).symm⟩

theorem isSome_begin {d : Delivery} (hd : t.queued[position]? = some d) (hfree : 0 < t.free) :
    (t.begin position).isSome = true := by
  simp [begin, hd, Nat.ne_of_gt hfree]

theorem isSome_call {d : Delivery} (hd : t.held[position]? = some d) (hhandler : (t.handlers d.subscription).isSome = true) :
    (t.call position).isSome = true := by
  obtain ⟨handler, hhandler⟩ := Option.isSome_iff_exists.1 hhandler
  simp [call, hd, hhandler]

theorem after_concat {acts : List Act} {a : Act} :
    t.after (acts ++ [a]) = some t' ↔ ∃ s, t.after acts = some s ∧ a.apply s = some t' := by
  rw [after, List.foldlM_append]
  simp [after, Option.bind_eq_some_iff]

end

end Traffic

end IntegrationFlow
