import IntegrationFlow.Event

/-!
# The event bus

Who wants to hear of events subscribes to some types of them, for all flows, nodes and runs or for one of each. What is
published is kept in a history of bounded length and delivered to the subscriptions that accept it, in the order in
which they were made (`receivers_publish`). Numbers of subscriptions are not used twice.
-/

namespace IntegrationFlow

/-- Which events are wanted. A part that is left out admits all. -/
structure Interest where
  types : List EventType
  flow? : Option String := none
  node? : Option String := none
  execution? : Option String := none

/-- What is wanted is left out, or is there. -/
def isWanted (wanted? actual? : Option String) : Bool :=
  wanted?.all fun w => actual? == some w

theorem isWanted_iff {wanted? actual? : Option String} :
    isWanted wanted? actual? = true ↔ ∀ w, wanted? = some w → actual? = some w := by
  cases wanted? <;> simp [isWanted]

/-- The event is wanted. -/
def Interest.accepts (i : Interest) (e : Event) : Bool :=
  i.types.contains e.type && isWanted i.flow? (some e.flow) && isWanted i.node? e.node? && isWanted i.execution? e.execution?

/-- What it means that an event is wanted: it is of one of the types, and every part that is not left out is there. -/
structure Interest.Wants (i : Interest) (e : Event) : Prop where
  type : e.type ∈ i.types
  flow : ∀ f, i.flow? = some f → e.flow = f
  node : ∀ n, i.node? = some n → e.node? = some n
  execution : ∀ x, i.execution? = some x → e.execution? = some x

theorem Interest.accepts_iff {i : Interest} {e : Event} : i.accepts e = true ↔ i.Wants e := by
  simp only [accepts, Bool.and_eq_true, List.contains_iff_mem, isWanted_iff, Option.some.injEq]
  constructor
  · rintro ⟨⟨⟨htype, hflow⟩, hnode⟩, hexecution⟩
    exact ⟨htype, hflow, hnode, hexecution⟩
  · intro h
    exact ⟨⟨⟨h.type, h.flow⟩, h.node⟩, h.execution⟩

instance (i : Interest) (e : Event) : Decidable (i.Wants e) :=
  decidable_of_iff _ Interest.accepts_iff

/-- A standing wish to hear of events. -/
structure Subscription where
  number : Nat
  interest : Interest

/-- The name of the subscription with a number. -/
def Subscription.idOf (number : Nat) : String :=
  "sub_" ++ toString number

/-- The name of a subscription. -/
def Subscription.id (s : Subscription) : String :=
  idOf s.number

/-- The number of a subscription tells it apart. -/
theorem Subscription.idOf_inj {m n : Nat} : idOf m = idOf n ↔ m = n := by
  refine ⟨fun h => ?_, congrArg idOf⟩
  have hdigits : Nat.toDigits 10 m = Nat.toDigits 10 n := by
    simpa [idOf] using congrArg String.toList h
  have hnumber := congrArg (Nat.ofDigitChars 10 · 0) hdigits
  simpa only [Nat.ofDigitChars_ten_toDigits] using hnumber

/-- An event and the time of its publication. -/
structure Published where
  event : Event
  time : Time.Timestamp

/-- The published event as a value. -/
def Published.toValue (p : Published) : Value :=
  let optional (s? : Option String) : Value := (s?.map .text).getD .null
  .ofFields [("type", .text p.event.type.name), ("flow_id", .text p.event.flow),
    ("execution_id", optional p.event.execution?), ("node_id", optional p.event.node?), ("data", p.event.data),
    ("timestamp", .text p.time.renderOffset)]

/-- A published event is asked for: each of its type, flow and run that is not left out is the one. -/
structure Published.Asked (type? : Option EventType) (flow? execution? : Option String) (p : Published) : Prop where
  type : ∀ t, type? = some t → p.event.type = t
  flow : ∀ f, flow? = some f → p.event.flow = f
  execution : ∀ x, execution? = some x → p.event.execution? = some x

theorem Published.asked_iff {type? : Option EventType} {flow? execution? : Option String} {p : Published} :
    (type?.all (p.event.type == ·) && isWanted flow? (some p.event.flow) && isWanted execution? p.event.execution?) = true ↔
      p.Asked type? flow? execution? := by
  simp only [Bool.and_eq_true, isWanted_iff, Option.all_eq_true, beq_iff_eq, Option.some.injEq]
  constructor
  · rintro ⟨⟨htype, hflow⟩, hexecution⟩
    exact ⟨htype, hflow, hexecution⟩
  · intro h
    exact ⟨⟨h.type, h.flow⟩, h.execution⟩

instance (type? : Option EventType) (flow? execution? : Option String) (p : Published) :
    Decidable (p.Asked type? flow? execution?) :=
  decidable_of_iff _ Published.asked_iff

/-- An event on its way to a subscription. -/
structure Delivery where
  subscription : String
  event : Event

/-- An event bus. -/
structure Bus where
  /-- How many events the history holds. -/
  capacity : Nat := 1000
  /-- In the order in which they were made. -/
  subscriptions : List Subscription := []
  /-- How many subscriptions have been made. -/
  made : Nat := 0
  /-- Newest first. -/
  history : List Published := []

/-- Counts over the history of a bus. -/
structure BusStats where
  events : Nat
  subscriptions : Nat
  /-- How many events there are of each type that occurs. -/
  byType : List (EventType × Nat)

namespace Bus

/-- Make a subscription. -/
def subscribe (b : Bus) (interest : Interest) : Bus × Subscription :=
  let s : Subscription := ⟨b.made + 1, interest⟩
  ({ b with subscriptions := b.subscriptions ++ [s], made := b.made + 1 }, s)

/-- There is a subscription with the name. -/
def isSubscribed (b : Bus) (id : String) : Bool :=
  b.subscriptions.any (·.id == id)

/-- End a subscription. -/
def unsubscribe (b : Bus) (id : String) : Bus :=
  { b with subscriptions := b.subscriptions.filter (·.id != id) }

/-- The subscriptions that accept an event. -/
def receivers (b : Bus) (e : Event) : List Subscription :=
  b.subscriptions.filter (·.interest.accepts e)

/-- Publish an event: the bus after it, and what is delivered. -/
def publish (b : Bus) (time : Time.Timestamp) (e : Event) : Bus × List Delivery :=
  ({ b with history := (⟨e, time⟩ :: b.history).take b.capacity }, (b.receivers e).map fun s => ⟨s.id, e⟩)

/-- The history without what is not asked for, newest first; with no limit, all of it. -/
def query (b : Bus) (type? : Option EventType) (flow? execution? : Option String) (limit? : Option Nat) : List Published :=
  let found := b.history.filter fun p =>
    type?.all (p.event.type == ·) && isWanted flow? (some p.event.flow) && isWanted execution? p.event.execution?
  match limit? with
  | some n => found.take n
  | none => found

/-- Counts over the history. -/
def stats (b : Bus) : BusStats where
  events := b.history.length
  subscriptions := b.subscriptions.length
  byType := (EventType.names.map fun (_, t) => (t, b.history.countP (·.event.type == t))).filter (·.2 > 0)

/-- Wait for a wanted event while something else goes on: the first such event that is delivered, if there is one. What
the others get meanwhile is given as well, and the waiter's own subscription ends with the wait. -/
def waitFor (b : Bus) (interest : Interest) (meanwhile : Bus → Bus × List Delivery) :
    Bus × Option Event × List Delivery :=
  let (b, s) := b.subscribe interest
  let (b, deliveries) := meanwhile b
  (b.unsubscribe s.id, (deliveries.find? (·.subscription == s.id)).map (·.event), deliveries.filter (·.subscription != s.id))

/-- A query with a limit gives the first of what is asked for. -/
theorem query_some (b : Bus) (type? : Option EventType) (flow? execution? : Option String) (limit : Nat) :
    b.query type? flow? execution? (some limit) = (b.history.filter (·.Asked type? flow? execution?)).take limit := by
  rw [query]
  congr 2
  funext p
  exact Bool.eq_iff_iff.2 (Published.asked_iff.trans decide_eq_true_iff.symm)

/-- The counts over the history are those of the types that occur. -/
theorem mem_byType_stats {b : Bus} {type : EventType} {n : Nat} :
    (type, n) ∈ b.stats.byType ↔ n = b.history.countP (·.event.type == type) ∧ 0 < n := by
  have hnames : type ∈ EventType.names.map (·.2) := by cases type <;> decide
  simp only [stats, List.mem_filter, List.mem_map, decide_eq_true_eq] at hnames ⊢
  refine and_congr_left fun _ => ⟨?_, ?_⟩
  · rintro ⟨named, -, hnamed⟩
    obtain ⟨rfl, rfl⟩ := Prod.mk.inj hnamed
    rfl
  · rintro rfl
    obtain ⟨named, hmem, rfl⟩ := hnames
    exact ⟨named, hmem, rfl⟩

/-- An event reaches each subscription that accepts it, once, in the order in which they were made. -/
theorem receivers_publish (b : Bus) (time : Time.Timestamp) (e : Event) :
    (b.publish time e).2.map (·.subscription) = (b.receivers e).map (·.id) := by
  simp [publish, Function.comp_def]

end Bus

end IntegrationFlow
