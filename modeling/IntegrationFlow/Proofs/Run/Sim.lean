import IntegrationFlow.Run.State

/-!
# What computations of a run do

`Sim.Meets` says that a computation does not end in a fault and that what it gives satisfies a postcondition; the rules
for it follow the way in which computations are put together. Most computations are `Sim.Quiet`: they touch only the
clock, the breakers, the documents and the events, and leave alone the `Ledger`, which tells how the run has gone.
-/

namespace IntegrationFlow.Run

open Simulation

/-- The part of a state that tells how the run has gone. -/
structure Ledger where
  status : RunStatus
  signals : List (String × Signal)
  invoked : List (String × Signal)
  records : List Record
  unrecovered : List Failure

/-- The ledger of a state. -/
def State.ledger (s : State) : Ledger :=
  ⟨s.status, s.signals, s.invoked, s.records, s.unrecovered⟩

namespace Sim

variable {α β : Type} {s : State}

/-! ### Postconditions -/

/-- A computation from a state does not stop with a fault, and its result and the state after it satisfy a
postcondition. -/
def Meets (x : Sim α) (s : State) (post : α → State → Prop) : Prop :=
  match x s with
  | .ok a s' => post a s'
  | .error stop _ => ∀ f, stop ≠ .fault f

theorem Meets.mono {x : Sim α} {post post' : α → State → Prop} (h : Meets x s post)
    (himp : ∀ a s', post a s' → post' a s') : Meets x s post' := by
  unfold Meets at h ⊢
  split
  · next hx =>
    rw [hx] at h
    exact himp _ _ h
  · next hx =>
    rw [hx] at h
    exact h

/-- The postcondition of a computation is what the next one starts from. -/
theorem Meets.bind {x : Sim α} {k : α → Sim β} {post : α → State → Prop} {post' : β → State → Prop}
    (h : Meets x s post) (hk : ∀ a s', post a s' → Meets (k a) s' post') : Meets (x >>= k) s post' := by
  unfold Meets at h
  have hbind : (x >>= k) s = EStateM.bind x k s := rfl
  unfold Meets
  rw [hbind, EStateM.bind]
  cases hx : x s with
  | ok a s' =>
    rw [hx] at h
    exact hk a s' h
  | error stop s' =>
    rw [hx] at h
    exact h

/-- A computation that gives a result gives one that satisfies the postcondition. -/
theorem Meets.of_ok {x : Sim α} {post : α → State → Prop} {a : α} {s' : State} (h : Meets x s post)
    (hx : x s = .ok a s') : post a s' := by
  unfold Meets at h
  rw [hx] at h
  exact h

/-- A computation with a postcondition does not stop with a fault. -/
theorem Meets.not_fault {x : Sim α} {post : α → State → Prop} {f : Fault} {s' : State} (h : Meets x s post) :
    x s ≠ .error (.fault f) s' := by
  intro hx
  unfold Meets at h
  rw [hx] at h
  exact h f rfl

theorem meets_of_ok {x : Sim α} {post : α → State → Prop} {a : α} {s' : State} (hx : x s = .ok a s')
    (h : post a s') : Meets x s post := by
  unfold Meets
  rw [hx]
  exact h

theorem meets_pure {a : α} {post : α → State → Prop} (h : post a s) : Meets (pure a) s post :=
  h

theorem meets_get_bind {k : State → Sim α} {post : α → State → Prop} (h : Meets (k s) s post) :
    Meets (get >>= k) s post :=
  h

theorem meets_modify_bind {f : State → State} {k : PUnit → Sim α} {post : α → State → Prop}
    (h : Meets (k ()) (f s) post) : Meets (modify f >>= k) s post :=
  h

/-- A mishap is no fault. -/
theorem meets_crashed {m : Expression.Mishap} {post : α → State → Prop} : Meets (throw (.crashed m)) s post := by
  intro f h
  cases h

/-- A result is handed on to the next computation. -/
theorem bind_eq_of_ok {x : Sim α} (k : α → Sim β) {a : α} {s' : State} (hx : x s = .ok a s') :
    (x >>= k) s = k a s' := by
  change EStateM.bind x k s = k a s'
  rw [EStateM.bind, hx]

/-- A result comes from one of the first computation, with which the next one has begun. -/
theorem exists_of_bind_eq_ok {x : Sim α} {k : α → Sim β} {b : β} {s' : State} (h : (x >>= k) s = .ok b s') :
    ∃ a s₁, x s = .ok a s₁ ∧ k a s₁ = .ok b s' := by
  change EStateM.bind x k s = _ at h
  rw [EStateM.bind] at h
  split at h
  · next a s₁ hx => exact ⟨a, s₁, hx, h⟩
  · cases h

theorem meets_bind_of_ok {x : Sim α} {k : α → Sim β} {a : α} {s' : State} {post : β → State → Prop}
    (hx : x s = .ok a s') (h : Meets (k a) s' post) : Meets (x >>= k) s post := by
  unfold Meets
  rw [bind_eq_of_ok k hx]
  exact h

/-- A computation from a state gives a result. -/
def isOk (x : Sim α) (s : State) : Bool :=
  match x s with
  | .ok _ _ => true
  | .error _ _ => false

/-- The state in which a computation ends. -/
def endState (x : Sim α) (s : State) : State :=
  match x s with
  | .ok _ s' => s'
  | .error _ s' => s'

theorem eq_ok_endState {x : Sim Unit} (h : isOk x s = true) : x s = .ok () (endState x s) := by
  unfold isOk at h
  unfold endState
  split at h
  · next hx => rw [hx]
  · cases h

/-! ### Quiet computations -/

/-- From every state, a computation leaves the ledger as it is, and its result has a property. -/
def Quiet (x : Sim α) (p : α → Prop := fun _ => True) : Prop :=
  ∀ s, Meets x s fun a s' => s'.ledger = s.ledger ∧ p a

theorem Quiet.mono {x : Sim α} {p q : α → Prop} (h : Quiet x p) (himp : ∀ a, p a → q a) : Quiet x q :=
  fun s => (h s).mono fun a _ hpost => ⟨hpost.1, himp a hpost.2⟩

theorem Quiet.bind {x : Sim α} {k : α → Sim β} {p : α → Prop} {q : β → Prop} (h : Quiet x p)
    (hk : ∀ a, p a → Quiet (k a) q) : Quiet (x >>= k) q := by
  intro s
  refine (h s).bind fun a mid hpost => (hk a hpost.2 mid).mono fun b s' hpost' => ?_
  exact ⟨hpost'.1.trans hpost.1, hpost'.2⟩

theorem quiet_pure {a : α} {p : α → Prop} (h : p a) : Quiet (pure a) p :=
  fun _ => ⟨rfl, h⟩

theorem quiet_get : Quiet get :=
  fun _ => ⟨rfl, trivial⟩

theorem quiet_modify {f : State → State} (h : ∀ s, (f s).ledger = s.ledger) : Quiet (modify f) :=
  fun s => ⟨h s, trivial⟩

theorem Quiet.get_bind {k : State → Sim α} {p : α → Prop} (h : ∀ s, Quiet (k s) p) : Quiet (get >>= k) p :=
  quiet_get.bind fun s _ => h s

theorem Quiet.modify_bind {f : State → State} {k : PUnit → Sim α} {p : α → Prop} (hf : ∀ s, (f s).ledger = s.ledger)
    (h : Quiet (k ()) p) : Quiet (modify f >>= k) p :=
  (quiet_modify hf).bind fun _ _ => h

theorem quiet_crashed {m : Expression.Mishap} {p : α → Prop} : Quiet (throw (.crashed m)) p :=
  fun _ => meets_crashed

theorem quiet_ofMishap (r : Except Expression.Mishap α) : Quiet (ofMishap r) fun a => r = .ok a := by
  unfold ofMishap
  cases r with
  | ok a => exact quiet_pure rfl
  | error m => exact quiet_crashed

theorem quiet_moment (env : Env) (m : Moment) : Quiet (moment env m) :=
  quiet_modify fun _ => rfl

theorem quiet_publish (env : Env) (e : Event) : Quiet (publish env e) := by
  unfold publish
  split
  · exact quiet_moment env _
  · exact quiet_pure trivial

theorem quiet_advance (ms : Int) : Quiet (advance ms) :=
  quiet_modify fun _ => rfl

theorem quiet_suspend (env : Env) (ms : Int) : Quiet (suspend env ms) :=
  (quiet_advance ms).bind fun _ _ => quiet_moment env .suspended

theorem quiet_read (p : Place) : Quiet (read p) :=
  Quiet.get_bind fun _ => quiet_pure trivial

theorem quiet_store (p : Place) (c : Cell) : Quiet (store p c) :=
  quiet_modify fun _ => rfl

theorem quiet_durationOf (env : Env) (n : Node) : Quiet (durationOf env n) :=
  (quiet_ofMishap _).mono fun _ _ => trivial

theorem quiet_nextAttempt (node : String) : Quiet (nextAttempt node) :=
  Quiet.get_bind fun _ => Quiet.modify_bind (fun _ => rfl) (quiet_pure trivial)

/-! ### Computations that change the ledger -/

/-- A status that is allowed is taken on. -/
theorem meets_transition {new : RunStatus} (h : s.status.allows new = true) :
    Meets (transition new) s fun _ s' => s' = { s with status := new } := by
  unfold transition
  refine meets_get_bind ?_
  rw [if_pos h]
  exact rfl

/-- A record is added at the end. -/
theorem meets_record (env : Env) (r : Record) :
    Meets (record env r) s fun _ s' => s'.ledger = { s.ledger with records := s.ledger.records ++ [r] } := by
  unfold record
  refine meets_modify_bind ?_
  split
  · refine meets_get_bind ?_
    split
    · exact (quiet_publish env _ _).mono fun _ _ h => h.1
    · intro f h
      cases h
  · exact rfl

end Sim

end IntegrationFlow.Run
