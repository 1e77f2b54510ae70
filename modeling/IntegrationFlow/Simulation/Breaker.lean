/-!
# Circuit breakers

A breaker guards a target of calls. Closed, it lets all calls pass; after enough failures in a row it opens and lets
none pass until a time has gone by; then it lets one pass to probe whether the target has recovered.
-/

namespace IntegrationFlow.Simulation

/-- The states of a breaker. -/
inductive CircuitState where
  | closed
  | opened
  | halfOpen
deriving DecidableEq

/-- The name of a state. -/
def CircuitState.name : CircuitState → String
  | .closed => "closed"
  | .opened => "open"
  | .halfOpen => "half_open"

/-- When breakers open, and for how long. -/
structure BreakerPolicy where
  /-- So many failures in a row open a breaker. -/
  threshold : Int := 5
  /-- After so many milliseconds an open breaker lets a call pass. -/
  resetTimeout : Int := 30000
deriving DecidableEq

/-- A breaker. -/
structure Breaker where
  state : CircuitState := .closed
  /-- The failures since the last success. -/
  failures : Nat := 0
  /-- When it was opened last. -/
  openedAt : Int := 0
deriving DecidableEq

namespace Breaker

/-- A call may pass at a time. -/
def allows (p : BreakerPolicy) (now : Int) (b : Breaker) : Bool :=
  b.state != .opened || now - b.openedAt ≥ p.resetTimeout

/-- Ask whether a call may pass; an open breaker that lets one pass is half open from then on. -/
def ask (p : BreakerPolicy) (now : Int) (b : Breaker) : Breaker :=
  if b.state == .opened && b.allows p now then { b with state := .halfOpen } else b

/-- Open at a time. -/
def trip (now : Int) (b : Breaker) : Breaker :=
  { b with state := .opened, openedAt := now }

/-- A call has succeeded. -/
def succeed (b : Breaker) : Breaker :=
  { b with state := .closed, failures := 0 }

/-- A call has failed at a time. -/
def fail (p : BreakerPolicy) (now : Int) (b : Breaker) : Breaker :=
  let b := { b with failures := b.failures + 1 }
  if b.state == .halfOpen || b.failures ≥ p.threshold then b.trip now else b

/-- What is asked of a breaker, or told to it. -/
inductive Call where
  | allow (now : Int)
  | success
  | failure (now : Int)
  | trip (now : Int)
deriving DecidableEq

/-- The breaker after a call. -/
def after (p : BreakerPolicy) (b : Breaker) : Call → Breaker
  | .allow now => b.ask p now
  | .success => b.succeed
  | .failure now => b.fail p now
  | .trip now => b.trip now

@[simp] theorem after_allow (p : BreakerPolicy) (b : Breaker) (now : Int) : b.after p (.allow now) = b.ask p now := rfl

@[simp] theorem after_success (p : BreakerPolicy) (b : Breaker) : b.after p .success = b.succeed := rfl

@[simp] theorem after_failure (p : BreakerPolicy) (b : Breaker) (now : Int) : b.after p (.failure now) = b.fail p now := rfl

@[simp] theorem after_trip (p : BreakerPolicy) (b : Breaker) (now : Int) : b.after p (.trip now) = b.trip now := rfl

/-- What a breaker answers to a call. -/
def answer? (p : BreakerPolicy) (b : Breaker) : Call → Option Bool
  | .allow now => some (b.allows p now)
  | _ => none

/-- A call is refused exactly by a breaker that is open and whose time has not gone by. -/
theorem allows_eq_false_iff {p : BreakerPolicy} {now : Int} {b : Breaker} :
    b.allows p now = false ↔ b.state = .opened ∧ now - b.openedAt < p.resetTimeout := by
  cases h : b.state <;> simp [allows, h]

end Breaker

/-- Breakers by the names of their targets, in the order in which they were first used. -/
structure Breakers where
  policy : BreakerPolicy := {}
  entries : List (String × Breaker) := []

namespace Breakers

/-- The breaker of a target; one that was not used yet is closed. -/
def get (bs : Breakers) (name : String) : Breaker :=
  (bs.entries.lookup name).getD {}

/-- Put a breaker in the place of the one with its name, or at the end. -/
def put (name : String) (b : Breaker) : List (String × Breaker) → List (String × Breaker)
  | [] => [(name, b)]
  | e :: es => if e.1 == name then (name, b) :: es else e :: put name b es

/-- Change the breaker of a target. -/
def update (bs : Breakers) (name : String) (change : Breaker → Breaker) : Breakers :=
  { bs with entries := put name (change (bs.get name)) bs.entries }

/-- Breakers of which some are open from the beginning. -/
def start (policy : BreakerPolicy) (opened : List String) : Breakers :=
  opened.foldl (fun bs name => bs.update name (·.trip 0)) { policy }

/-- Call the breaker of a target. -/
def call (bs : Breakers) (name : String) (c : Breaker.Call) : Breakers × Option Bool :=
  (bs.update name (·.after bs.policy c), (bs.get name).answer? bs.policy c)

/-- The breakers after some calls. -/
def after (bs : Breakers) (calls : List (String × Breaker.Call)) : Breakers :=
  calls.foldl (fun bs c => (bs.call c.1 c.2).1) bs

/-- The names of the states of all breakers. -/
def states (bs : Breakers) : List (String × String) :=
  bs.entries.map fun e => (e.1, e.2.state.name)

/-- The entry that was put is found, and no other changes. -/
theorem lookup_put (name other : String) (b : Breaker) (es : List (String × Breaker)) :
    (put name b es).lookup other = if other = name then some b else es.lookup other := by
  induction es with
  | nil =>
    by_cases h : other = name
    · simp [put, h]
    · have h1 : (other == name) = false := by simp [h]
      simp [put, List.lookup_cons, h1, h]
  | cons e es ih =>
    obtain ⟨k, v⟩ := e
    unfold put
    split
    · next h =>
      have h : k = name := by simpa using h
      by_cases ho : other = name
      · simp [ho]
      · have h1 : (other == name) = false := by simp [ho]
        have h2 : (other == k) = false := by simp [h, ho]
        simp [List.lookup_cons, h1, h2, ho]
    · next h =>
      have h : ¬ k = name := by simpa using h
      by_cases ho : other = k
      · subst ho
        simp [h]
      · have h1 : (other == k) = false := by simp [ho]
        simp [List.lookup_cons, h1, ih]

/-- A change of one breaker changes that breaker and no other. -/
theorem get_update (bs : Breakers) (name other : String) (change : Breaker → Breaker) :
    (bs.update name change).get other = if other = name then change (bs.get name) else bs.get other := by
  unfold update get
  simp only [lookup_put]
  by_cases h : other = name
  · simp [h]
  · simp [h]

/-- A call changes the breaker that is called and no other. -/
theorem get_call (bs : Breakers) (name other : String) (c : Breaker.Call) :
    (bs.call name c).1.get other = if other = name then (bs.get name).after bs.policy c else bs.get other :=
  get_update bs name other (·.after bs.policy c)

end Breakers

end IntegrationFlow.Simulation
