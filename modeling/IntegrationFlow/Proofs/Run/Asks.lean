import IntegrationFlow.Proofs.Run.Course
import IntegrationFlow.Proofs.Run.Interrupt

/-!
# The calls of a run

Before every attempt a call asks its breaker. `asksOf` lists these moments of a run in their order, each with the state
in which it comes; it follows a run from computation to computation, so it lists what comes before a mishap and before a
cancellation as well. Between two asks nothing happens to the breakers and no attempt is counted (`through_simulate`), so
all that the breakers go through is in the list.
-/

namespace IntegrationFlow.Run

open Simulation Sim

/-- A call asks its breaker, in a state, whether it may make an attempt. -/
structure Ask where
  call : OutboundCall
  state : State

/-! ### What lies between two asks -/

/-- Nothing happens to the breakers and no attempt is counted; time may pass. -/
structure Idle (s s' : State) : Prop where
  breakers : s'.breakers = s.breakers
  attempts : s'.attempts = s.attempts
  clock : s.clock.now ≤ s'.clock.now

theorem Idle.of_eq {s s' : State} (hbreakers : s'.breakers = s.breakers) (hattempts : s'.attempts = s.attempts)
    (hclock : s'.clock = s.clock) : Idle s s' :=
  ⟨hbreakers, hattempts, hclock ▸ Nat.le_refl _⟩

theorem Idle.refl (s : State) : Idle s s :=
  .of_eq rfl rfl rfl

theorem Idle.trans {s s' s'' : State} (h : Idle s s') (h' : Idle s' s'') : Idle s s'' :=
  ⟨h'.breakers.trans h.breakers, h'.attempts.trans h.attempts, h.clock.trans h'.clock⟩

namespace OutboundCall

/-- Make an attempt, if the breaker of the call allows it. -/
def tried (c : OutboundCall) (env : Env) : Sim (Option (Int × Option FailureCause)) := do
  if ← c.allowed then return some (← c.attempt env) else return none

end OutboundCall

/-- The state after an ask and the attempt that is made upon it. -/
def Ask.after (env : Env) (a : Ask) : State :=
  endState (a.call.tried env) a.state

/-- One state comes from another one through some asks and what they lead to, and idles between them. -/
inductive Through (env : Env) : State → List Ask → State → Prop
  | idle {s s' : State} (h : Idle s s') : Through env s [] s'
  | ask {s s' : State} {a : Ask} {as : List Ask} (h : Idle s a.state) (hrest : Through env (a.after env) as s') :
    Through env s (a :: as) s'

section

variable {env : Env} {s s' s'' : State} {as bs : List Ask}

theorem Through.of_idle (h : Idle s s') (hrest : Through env s' as s'') : Through env s as s'' := by
  cases hrest with
  | idle h' => exact .idle (h.trans h')
  | ask h' hrest => exact .ask (h.trans h') hrest

theorem Through.append (h : Through env s as s') (h' : Through env s' bs s'') : Through env s (as ++ bs) s'' := by
  induction h with
  | idle hidle => exact h'.of_idle hidle
  | ask hidle _ ih => exact .ask hidle (ih h')

/-- Asks divide the way at any place. -/
theorem Through.split (h : Through env s (as ++ bs) s') :
    ∃ mid, Through env s as mid ∧ Through env mid bs s' := by
  induction as generalizing s with
  | nil => exact ⟨s, .idle (.refl s), h⟩
  | cons a as ih =>
    cases h with
    | ask hidle hrest =>
      obtain ⟨mid, has, hbs⟩ := ih hrest
      exact ⟨mid, .ask hidle has, hbs⟩

end

/-! ### Following computations -/

section

variable {α β : Type} {env : Env}

/-- What is listed once a computation has come to its result. -/
def following (x : Sim α) (later : α → State → List Ask) (s : State) : List Ask :=
  match x s with
  | .ok a s' => later a s'
  | .error _ _ => []

/-- A computation asks no breaker. -/
def Calm (x : Sim α) : Prop :=
  ∀ s, Idle s (endState x s)

/-- From every state, a computation asks what is listed. -/
def Lists (env : Env) (x : Sim α) (asks : State → List Ask) : Prop :=
  ∀ s, Through env s (asks s) (endState x s)

theorem endState_bind (x : Sim α) (k : α → Sim β) (s : State) :
    endState (x >>= k) s = match x s with
      | .ok a s' => endState (k a) s'
      | .error _ s' => s' := by
  unfold endState
  change (match EStateM.bind x k s with | .ok _ s' => s' | .error _ s' => s') = _
  rw [EStateM.bind]
  cases x s <;> rfl

/-- What a computation asks is followed by what the next one asks. -/
theorem Lists.bind {x : Sim α} {k : α → Sim β} {asks : State → List Ask} {later : α → State → List Ask}
    (h : Lists env x asks) (hk : ∀ a, Lists env (k a) (later a)) :
    Lists env (x >>= k) fun s => asks s ++ following x later s := by
  intro s
  have hx := h s
  rw [endState_bind]
  unfold endState at hx
  unfold following
  cases hresult : x s with
  | ok a s' =>
    simp only [hresult] at hx ⊢
    exact hx.append (hk a s')
  | error stop s' =>
    simp only [hresult] at hx ⊢
    exact hx.append (.idle (.refl s'))

theorem Calm.lists {x : Sim α} (h : Calm x) : Lists env x fun _ => [] :=
  fun s => .idle (h s)

theorem Calm.bind_lists {x : Sim α} {k : α → Sim β} {later : α → State → List Ask} (h : Calm x)
    (hk : ∀ a, Lists env (k a) (later a)) : Lists env (x >>= k) (following x later) :=
  h.lists.bind hk

theorem Lists.bind_calm {x : Sim α} {k : α → Sim β} {asks : State → List Ask} (h : Lists env x asks)
    (hk : ∀ a, Calm (k a)) : Lists env (x >>= k) asks := by
  intro s
  have hbind : Through env s (asks s ++ following x (fun _ _ => []) s) (endState (x >>= k) s) :=
    h.bind (fun a => (hk a).lists) s
  have hnone : following x (fun _ _ => []) s = [] := by
    unfold following
    cases x s <;> rfl
  rwa [hnone, List.append_nil] at hbind

theorem Lists.get_bind {k : State → Sim α} {l : State → State → List Ask} (h : ∀ s, Lists env (k s) (l s)) :
    Lists env (get >>= k) fun s => l s s :=
  fun s => h s s

/-! ### Computations that ask no breaker -/

theorem calm_pure (a : α) : Calm (pure a) :=
  Idle.refl

theorem calm_throw (stop : Stop) : Calm (throw stop : Sim α) :=
  Idle.refl

theorem calm_modify {f : State → State} (h : ∀ s, Idle s (f s)) : Calm (modify f) :=
  h

theorem Calm.bind {x : Sim α} {k : α → Sim β} (h : Calm x) (hk : ∀ a, Calm (k a)) : Calm (x >>= k) := by
  intro s
  have hx := h s
  rw [endState_bind]
  unfold endState at hx
  cases hresult : x s with
  | ok a s' =>
    rw [hresult] at hx
    exact hx.trans (hk a s')
  | error stop s' =>
    rw [hresult] at hx
    exact hx

theorem Calm.modify_bind {f : State → State} {k : PUnit → Sim α} (hf : ∀ s, Idle s (f s)) (hk : Calm (k ())) :
    Calm (modify f >>= k) :=
  (calm_modify hf).bind fun _ => hk

theorem Calm.get_bind {k : State → Sim α} (h : ∀ s, Calm (k s)) : Calm (get >>= k) :=
  fun s => h s s

theorem calm_ofMishap (r : Except Expression.Mishap α) : Calm (ofMishap r) := by
  unfold ofMishap
  cases r with
  | ok a => exact calm_pure a
  | error m => exact calm_throw _

end

section

variable (env : Env)

theorem calm_moment (m : Moment) : Calm (moment env m) :=
  calm_modify fun _ => .of_eq rfl rfl rfl

theorem calm_publish (e : Event) : Calm (publish env e) := by
  unfold publish
  split
  · exact calm_moment env _
  · exact calm_pure ()

theorem calm_advance (ms : Int) : Calm (advance ms) :=
  calm_modify fun s => ⟨rfl, rfl, s.clock.now_le_advance ms⟩

theorem calm_suspend (ms : Int) : Calm (suspend env ms) :=
  (calm_advance ms).bind fun _ => calm_moment env _

theorem calm_transition (new : RunStatus) : Calm (transition new) := by
  intro s
  have hget : transition new s =
      (if s.status.allows new then set { s with status := new } else fault (.illegalTransition s.status new) : Sim Unit)
        s := rfl
  unfold endState
  rw [hget]
  by_cases hallowed : s.status.allows new = true
  · rw [if_pos hallowed]
    exact .of_eq rfl rfl rfl
  · rw [if_neg hallowed]
    exact .refl s

theorem calm_read (p : Place) : Calm (read p) :=
  Calm.get_bind fun _ => calm_pure _

theorem calm_store (p : Place) (c : Cell) : Calm (store p c) :=
  calm_modify fun _ => .of_eq rfl rfl rfl

theorem calm_setSignal (edge : String) (signal : Signal) : Calm (setSignal edge signal) :=
  calm_modify fun _ => .of_eq rfl rfl rfl

theorem calm_typeOf (n : Node) : Calm (typeOf env n) := by
  unfold typeOf
  split
  · exact calm_pure _
  · exact calm_throw _

theorem calm_durationOf (n : Node) : Calm (durationOf env n) :=
  calm_ofMishap _

theorem calm_record (r : Record) : Calm (record env r) := by
  unfold record
  refine Calm.modify_bind (fun _ => .of_eq rfl rfl rfl) ?_
  split
  · refine Calm.get_bind fun s => ?_
    split
    · exact calm_publish env _
    · exact calm_throw _
  · exact calm_pure ()

end

/-! ### Calls -/

namespace OutboundCall

variable (c : OutboundCall) (env : Env)

/-- What a call asks that makes at most so many more attempts. -/
def asks : Nat → Nat → Option FailureCause → State → List Ask
  | 0, _, _ => fun _ => []
  | remaining + 1, number, last? =>
    following (c.beforeAttempt env number last?) fun _ s =>
      ⟨c, s⟩ :: following (c.tried env) (fun
        | some (_, some cause) => asks remaining (number + 1) (some cause)
        | _ => fun _ => []) s

theorem calm_beforeAttempt (number : Nat) (last? : Option FailureCause) : Calm (c.beforeAttempt env number last?) := by
  unfold beforeAttempt
  split
  · exact calm_pure _
  · exact (calm_suspend env _).bind fun _ => (calm_publish env _).bind fun _ => calm_pure _

/-- A call waits, tries, and goes on after a failure. -/
theorem attempts_eq_tried (remaining number : Nat) (elapsed : Int) (last? : Option FailureCause) :
    c.attempts env (remaining + 1) number elapsed last? = (do
      let delay ← c.beforeAttempt env number last?
      match ← c.tried env with
      | none => return ⟨elapsed + delay, number, some (.circuitOpen c.circuit)⟩
      | some (taken, none) => return ⟨elapsed + delay + taken, number, none⟩
      | some (taken, some cause) =>
        c.attempts env remaining (number + 1) (elapsed + delay + taken) (some cause)) := by
  conv_lhs => unfold attempts
  refine bind_congr fun delay => ?_
  unfold tried
  rw [bind_assoc]
  refine bind_congr fun allowed => ?_
  cases allowed with
  | false => simp
  | true =>
    simp only [if_true, bind_assoc, pure_bind]
    refine bind_congr fun x => ?_
    obtain ⟨taken, failure?⟩ := x
    cases failure? <;> rfl

/-- A call asks before each of its attempts. -/
theorem lists_attempts (remaining number : Nat) (elapsed : Int) (last? : Option FailureCause) :
    Lists env (c.attempts env remaining number elapsed last?) (c.asks env remaining number last?) := by
  induction remaining generalizing number elapsed last? with
  | zero => exact (calm_pure _).lists
  | succ remaining ih =>
    rw [attempts_eq_tried]
    refine (c.calm_beforeAttempt env number last?).bind_lists fun delay => ?_
    have hask : Lists env (c.tried env) fun s => [⟨c, s⟩] := fun s => .ask (.refl s) (.idle (.refl _))
    refine hask.bind fun found => ?_
    rcases found with _ | ⟨taken, _ | cause⟩
    · exact (calm_pure _).lists
    · exact (calm_pure _).lists
    · exact ih _ _ _

end OutboundCall

/-- The call that a node of a kind makes. -/
def callOf? (n : Node) : Config → Option OutboundCall
  | .connector c => some ⟨n, c.outbound, circuitName n⟩
  | .serviceCall c => some ⟨n, c.outbound, circuitName n⟩
  | _ => none

/-- Only connectors and service calls make calls, through their own circuits. -/
theorem of_callOf?_eq_some {n : Node} {config : Config} {c : OutboundCall} (h : callOf? n config = some c) :
    c.node = n ∧ c.circuit = circuitName n ∧ (config.kind = .connector ∨ config.kind = .serviceCall) := by
  cases config with
  | connector config =>
    cases h
    exact ⟨rfl, rfl, .inl rfl⟩
  | serviceCall config =>
    cases h
    exact ⟨rfl, rfl, .inr rfl⟩
  | ingress _ | transform _ | condition _ | database _ | errorHandler _ | serviceBox _ => cases h

/-- What a node asks when it is carried out. -/
def asksOfWork (env : Env) (n : Node) (config : Config) : State → List Ask :=
  match callOf? n config with
  | some c => c.asks env (c.config.retries + 1) 0 none
  | none => fun _ => []

/-- What a node asks that is no error handler. -/
def asksOfSemantics (env : Env) (n : Node) : Semantics → State → List Ask
  | .builtin config => asksOfWork env n config
  | .custom _ => fun _ => []

section

variable {env : Env} {n : Node}

theorem calm_settle (node : String) (r : Outcome NodeOutcome) : Calm (settle node r) := by
  unfold settle
  split
  · exact calm_pure _
  · exact calm_pure _
  · exact calm_throw _

theorem calm_query (c : DatabaseConfig) (b : Birth) (input : Cell) : Calm (query env n c b input) := by
  unfold query
  refine (calm_durationOf env n).bind fun duration => (calm_suspend env duration).bind fun _ => ?_
  split
  · exact calm_pure _
  · exact calm_pure _

theorem lists_work (config : Config) (b : Birth) (input : Cell) :
    Lists env (work env n config b input) (asksOfWork env n config) := by
  cases config with
  | connector c => exact (OutboundCall.lists_attempts _ env _ _ _ _).bind_calm fun _ => calm_pure _
  | serviceCall c => exact (OutboundCall.lists_attempts _ env _ _ _ _).bind_calm fun _ => calm_pure _
  | transform c => exact (calm_settle _ _).lists
  | condition c => exact (calm_settle _ _).lists
  | database c => exact (calm_query c b input).lists
  | ingress _ | serviceBox _ | errorHandler _ => exact (calm_pure _).lists

theorem calm_behave (input : Cell) (b : Behaviour) : Calm (behave n input b) := by
  cases b with
  | passthrough | fail => exact calm_pure _
  | fault => exact calm_throw _
  | ports => exact (calm_ofMishap _).bind fun _ => calm_pure _
  | illegal => exact (calm_transition _).bind fun _ => calm_pure _

theorem calm_semanticsOf : Calm (semanticsOf env n) := by
  unfold semanticsOf
  refine (calm_typeOf env n).bind fun t => ?_
  split
  · split
    · exact calm_pure _
    · exact calm_throw _
  · split
    · exact calm_pure _
    · exact calm_throw _

theorem calm_finishTiming (o : NodeOutcome) : Calm (finishTiming env n o) := by
  unfold finishTiming
  split
  · exact calm_pure _
  · exact (calm_durationOf env n).bind fun _ => (calm_advance _).bind fun _ => calm_pure _

theorem calm_recordOutcome (o : NodeOutcome) (output : Place) : Calm (recordOutcome env n o output) :=
  calm_record env _

end

/-- What a node asks that is tried again. -/
def asksOfReinvoke (env : Env) (n : Node) : State → List Ask :=
  following (read (.input n.id)) fun _ => following (semanticsOf env n) (asksOfSemantics env n)

theorem lists_reinvoke (env : Env) (n : Node) (p : Place) :
    Lists env (reinvoke env n p) (asksOfReinvoke env n) := by
  unfold reinvoke
  refine (calm_read _).bind_lists fun input => calm_semanticsOf.bind_lists fun m => ?_
  cases m with
  | builtin config => exact (lists_work config _ input).bind_calm calm_finishTiming
  | custom b => exact ((calm_behave input b).bind calm_finishTiming).lists

/-! ### Error handlers -/

namespace Retrying

variable (r : Retrying) (env : Env)

/-- What is asked in one more attempt of a handler. -/
def asksOfAgain (number : Nat) (last : Failure) : State → List Ask :=
  following (suspend env (backoffDelay r.config.backoffStrategy r.config.backoffMs number)) fun _ =>
    following (publish env
      (.nodeRetry env.flow.id env.execution r.origin.id (.int number) (.text last.cause.message))) fun _ =>
        asksOfReinvoke env r.origin

theorem lists_again (number : Nat) (last : Failure) :
    Lists env (r.again env number last) (r.asksOfAgain env number last) := by
  unfold again
  refine (calm_suspend env _).bind_lists fun _ => (calm_publish env _).bind_lists fun _ => ?_
  refine (lists_reinvoke env r.origin _).bind_calm fun o => ?_
  cases o.result with
  | ok output =>
    exact (calm_store _ output).bind fun _ => (calm_recordOutcome o _).bind fun _ => calm_pure _
  | error f => exact (calm_recordOutcome o _).bind fun _ => calm_pure _

/-- What is asked in at most so many more attempts of a handler. -/
def asks : Nat → Nat → Nat → Failure → State → List Ask
  | 0, _, _, _ => fun _ => []
  | remaining + 1, done, waited, last => fun s =>
    if s.cancelled then []
    else
      r.asksOfAgain env (done + 1) last s ++ following (r.again env (done + 1) last) (fun o =>
        match o.result with
        | .ok _ => fun _ => []
        | .error f => asks remaining (done + 1)
          (waited + backoffDelay r.config.backoffStrategy r.config.backoffMs (done + 1)) f) s

theorem calm_finish (o : NodeOutcome) (waited retryCount : Nat) : Calm (r.finish o waited retryCount) :=
  (calm_advance _).bind fun _ => calm_pure _

theorem lists_attempts (remaining done waited : Nat) (last : Failure) :
    Lists env (r.attempts env remaining done waited last) (r.asks env remaining done waited last) := by
  induction remaining generalizing done waited last with
  | zero => exact (r.calm_finish _ _ _).lists
  | succ remaining ih =>
    intro s
    unfold asks
    cases hcancelled : s.cancelled with
    | true =>
      have hend : endState (r.attempts env (remaining + 1) done waited last) s =
          endState (r.finish (passOn last) waited done) s := by
        unfold endState
        rw [r.attempts_of_cancelled _ _ _ _ _ hcancelled]
      rw [hend]
      exact (r.calm_finish _ _ _).lists s
    | false =>
      have hend : endState (r.attempts env (remaining + 1) done waited last) s =
          endState (r.again env (done + 1) last >>= r.afterAgain env remaining (done + 1)
            (waited + backoffDelay r.config.backoffStrategy r.config.backoffMs (done + 1))) s := by
        unfold endState
        rw [r.attempts_of_not_cancelled _ _ _ _ _ hcancelled]
      rw [hend]
      refine (r.lists_again env _ last).bind (fun o => ?_) s
      unfold afterAgain
      cases o.result with
      | ok output => exact (r.calm_finish _ _ _).lists
      | error f => exact ih _ _ _

end Retrying

/-- What is asked when the node is tried again at which a failure arose. -/
def asksOfOrigin (env : Env) (n : Node) (c : ErrorHandlerConfig) (f : Failure) (maxRetries : Nat) : State → List Ask :=
  following (durationOf env n) fun base =>
    match env.flow.node? f.node with
    | none => fun _ => []
    | some origin => fun s =>
      if (s.invoked.lookup origin.id).isNone then []
      else Retrying.asks ⟨n, c, origin, base⟩ env maxRetries 0 0 f s

/-- What is asked when a handler takes care of what comes in. -/
def asksOfHandle (env : Env) (n : Node) (c : ErrorHandlerConfig) (incoming : Signal) : State → List Ask :=
  match incoming.failure? with
  | none => fun _ => []
  | some f =>
    let (strategy, maxRetries) := strategyOf env.flow.config c
    if strategy == Strategy.fallback.name then fun _ => []
    else if strategy == Strategy.retry.name then asksOfOrigin env n c f maxRetries
    else fun _ => []

/-- What is asked when a node is carried out for the first time. -/
def asksOfInvoke (env : Env) (n : Node) (incoming : Signal) : State → List Ask :=
  following (read (.input n.id)) fun _ => following (semanticsOf env n) fun
    | .builtin (.errorHandler c) => asksOfHandle env n c incoming
    | m => asksOfSemantics env n m

section

variable {env : Env} {n : Node}

theorem lists_retryOrigin (c : ErrorHandlerConfig) (f : Failure) (maxRetries : Nat) :
    Lists env (retryOrigin env n c f maxRetries) (asksOfOrigin env n c f maxRetries) := by
  unfold retryOrigin
  refine (calm_durationOf env n).bind_lists fun base => ?_
  cases env.flow.node? f.node with
  | none => exact (calm_pure _).lists
  | some origin =>
    refine Lists.get_bind (l := fun s₀ s => if (s₀.invoked.lookup origin.id).isNone then []
      else Retrying.asks ⟨n, c, origin, base⟩ env maxRetries 0 0 f s) fun s₀ => ?_
    by_cases hnone : (s₀.invoked.lookup origin.id).isNone = true
    · simp only [hnone, if_true]
      exact (calm_pure _).lists
    · simp only [hnone]
      exact Retrying.lists_attempts _ env _ _ _ _

theorem lists_handle (c : ErrorHandlerConfig) (b : Birth) (input : Cell) (incoming : Signal) :
    Lists env (handle env n c b input incoming) (asksOfHandle env n c incoming) := by
  unfold handle asksOfHandle
  cases incoming.failure? with
  | none => exact (calm_pure _).lists
  | some f =>
    dsimp only
    split
    · exact (calm_pure _).lists
    · split
      · exact lists_retryOrigin c f _
      · exact (calm_pure _).lists

theorem lists_invoke (incoming : Signal) : Lists env (invoke env n incoming) (asksOfInvoke env n incoming) := by
  unfold invoke
  refine (calm_read _).bind_lists fun input => calm_semanticsOf.bind_lists fun m => ?_
  rcases m with config | b
  · cases config with
    | errorHandler c => exact (lists_handle c _ input incoming).bind_calm calm_finishTiming
    | ingress _ | transform _ | connector _ | serviceCall _ | condition _ | database _ | serviceBox _ =>
      exact (lists_work _ _ input).bind_calm calm_finishTiming
  · exact ((calm_behave input b).bind calm_finishTiming).lists

end

/-! ### Visits -/

/-- What is asked when a node with an input is carried out. -/
def asksOfEngage (env : Env) (n : Node) (input : Cell) (incoming : Signal) : State → List Ask :=
  following (store (.input n.id) input) fun _ =>
    following (modify fun s => { s with invoked := (n.id, incoming) :: s.invoked }) fun _ =>
      asksOfInvoke env n incoming

/-- What is asked when a node takes its input and is carried out. -/
def asksOfEngageFrom (env : Env) (n : Node) (t : NodeType) (live : List (Edge × Signal)) : State → List Ask :=
  following (inputOf n t (sourcesOf live)) fun
    | .ok input => asksOfEngage env n input (merge (.input n.id) (live.map (·.2)))
    | .error _ => fun _ => []

/-- What is asked when a node is attended to. -/
def asksOfAttend (env : Env) (n : Node) : State → List Ask :=
  following (typeOf env n) fun t =>
    if t.category == .input then asksOfEngage env n (.ofValue (Place.input n.id).site env.input) (.active (.input n.id) none)
    else fun s =>
      if (liveEdges env.flow s.signals n).isEmpty then []
      else asksOfEngageFrom env n t (liveEdges env.flow s.signals n) s

section

variable {env : Env} {n : Node}

theorem calm_handOver (e : Edge) (payload : Place) : Calm (handOver n e payload) := by
  unfold handOver
  refine (calm_read _).bind fun source => Calm.modify_bind (fun _ => .of_eq rfl rfl rfl) ?_
  split
  · exact calm_pure _
  · split
    · split
      · exact calm_pure _
      · exact calm_pure _
    · exact calm_pure _

theorem calm_handOverAll (live : List (Edge × Place)) : Calm (handOverAll n live) := by
  induction live with
  | nil => exact calm_pure _
  | cons first rest ih =>
    unfold handOverAll
    refine (calm_handOver _ _).bind fun r => ?_
    cases r with
    | error halt => exact calm_pure _
    | ok c =>
      refine ih.bind fun rs => ?_
      cases rs with
      | error halt => exact calm_pure _
      | ok cs => exact calm_pure _

theorem calm_inputOf (t : NodeType) (live : List (Edge × Place)) : Calm (inputOf n t live) := by
  unfold inputOf
  split
  · exact calm_pure _
  · refine (calm_handOverAll live).bind fun r => ?_
    cases r with
    | error halt => exact calm_pure _
    | ok cs => exact calm_pure _

theorem calm_mapM {α β : Type} {f : α → Sim β} (hf : ∀ a, Calm (f a)) (as : List α) : Calm (as.mapM f) := by
  induction as with
  | nil => exact calm_pure _
  | cons a as ih =>
    rw [List.mapM_cons]
    exact (hf a).bind fun _ => ih.bind fun _ => calm_pure _

theorem calm_rawInput (n : Node) (live : List (Edge × Place)) : Calm (rawInput n live) :=
  (calm_mapM (fun _ => calm_read _) live).bind fun _ => calm_pure _

theorem calm_setSignals (o : NodeOutcome) (payload : Place) (failure? : Option Failure) (es : List Edge) :
    Calm (setSignals n o payload failure? es) := by
  induction es with
  | nil => exact calm_pure _
  | cons e es ih =>
    unfold setSignals
    split
    · exact calm_throw _
    · exact (calm_ofMishap _).bind fun _ => (calm_setSignal _ _).bind fun _ => ih.bind fun _ => calm_pure _

theorem calm_conclude (o : NodeOutcome) (incoming : Signal) : Calm (conclude env n o incoming) := by
  unfold conclude storeOutput
  refine (calm_store _ _).bind fun _ => (calm_recordOutcome o _).bind fun _ => ?_
  unfold route
  refine (calm_setSignals o _ _ _).bind fun emitted => ?_
  split
  · split
    · exact calm_pure _
    · exact calm_modify fun _ => .of_eq rfl rfl rfl
  · exact calm_pure _

theorem calm_complete (found : Option (NodeOutcome × Signal)) : Calm (complete env n found) := by
  cases found with
  | some x => exact calm_conclude x.1 x.2
  | none =>
    refine (calm_record env _).bind fun _ => ?_
    induction env.flow.outgoing n.id with
    | nil => exact calm_pure _
    | cons e es ih => exact (calm_setSignal _ _).bind fun _ => ih

theorem lists_engage (input : Cell) (incoming : Signal) :
    Lists env (engage env n input incoming) (asksOfEngage env n input incoming) := by
  unfold engage
  refine (calm_store _ input).bind_lists fun _ => ?_
  have hinvoked : Calm (modify fun s : State => { s with invoked := (n.id, incoming) :: s.invoked }) :=
    calm_modify fun _ => .of_eq rfl rfl rfl
  exact hinvoked.bind_lists fun _ => lists_invoke incoming

theorem lists_engageFrom (t : NodeType) (live : List (Edge × Signal)) :
    Lists env (engageFrom env n t live) (asksOfEngageFrom env n t live) := by
  unfold engageFrom
  refine (calm_inputOf t _).bind_lists fun input => ?_
  rcases input with (cause | m) | input
  · refine ((calm_rawInput n _).bind fun raw => (calm_store _ raw).bind fun _ => ?_).lists
    exact calm_finishTiming _
  · exact (calm_throw _).lists
  · exact lists_engage input _

theorem lists_attend : Lists env (attend env n) (asksOfAttend env n) := by
  unfold attend
  refine (calm_typeOf env n).bind_lists fun t => ?_
  by_cases hinput : (t.category == .input) = true
  · simp only [hinput, if_true]
    exact (lists_engage _ _).bind_calm fun _ => calm_pure _
  · simp only [hinput]
    unfold attendInner
    refine Lists.get_bind (l := fun s₀ s => if (liveEdges env.flow s₀.signals n).isEmpty then []
      else asksOfEngageFrom env n t (liveEdges env.flow s₀.signals n) s) fun s₀ => ?_
    by_cases hnone : (liveEdges env.flow s₀.signals n).isEmpty = true
    · simp only [hnone, if_true]
      exact (calm_pure _).lists
    · simp only [hnone]
      exact (lists_engageFrom t _).bind_calm fun _ => calm_pure _

/-- A visit asks no breaker once the node was attended to. -/
theorem lists_visit : Lists env (visit env n) (asksOfAttend env n) := by
  rw [visit_eq]
  exact lists_attend.bind_calm calm_complete

end

/-! ### Runs -/

/-- What is asked when nodes are visited one after another until the run is cancelled. -/
def asksOfVisits (env : Env) : List Node → State → List Ask
  | [] => fun _ => []
  | n :: ns => fun s =>
    if s.cancelled then [] else asksOfAttend env n s ++ following (visit env n) (fun _ => asksOfVisits env ns) s

/-- What is asked in a run. -/
def asksOf (env : Env) (openCircuits : List String) : List Ask :=
  (following (transition .running) fun _ =>
    following (publish env (.runStarted env.flow.id env.execution env.input)) fun _ =>
      following (orderOf env) (asksOfVisits env)) (initialState env openCircuits)

section

variable {env : Env}

theorem calm_ingressOf (ns : List Node) : Calm (ingressOf env ns) := by
  induction ns with
  | nil => exact calm_throw _
  | cons n ns ih =>
    unfold ingressOf
    refine (calm_typeOf env n).bind fun t => ?_
    split
    · exact calm_pure _
    · exact ih

theorem calm_orderOf : Calm (orderOf env) := by
  unfold orderOf
  refine (calm_ingressOf _).bind fun ingress => ?_
  split
  · exact calm_pure _
  · exact calm_throw _

theorem lists_visitAll (ns : List Node) : Lists env (visitAll env ns) (asksOfVisits env ns) := by
  induction ns with
  | nil => exact (calm_pure _).lists
  | cons n ns ih =>
    unfold visitAll asksOfVisits
    refine Lists.get_bind (l := fun s₀ s => if s₀.cancelled then []
      else asksOfAttend env n s ++ following (visit env n) (fun _ => asksOfVisits env ns) s) fun s₀ => ?_
    by_cases hcancelled : s₀.cancelled = true
    · simp only [hcancelled, if_true]
      exact ((calm_transition _).bind fun _ => calm_pure _).lists
    · simp only [hcancelled]
      exact lists_visit.bind fun _ => ih

/-- A run goes through what is listed: through the asks of all calls that it makes, in their order, and through nothing
else that would concern a breaker. -/
theorem through_simulate (env : Env) (openCircuits : List String) :
    Through env (initialState env openCircuits) (asksOf env openCircuits)
      (endState (simulate env) (initialState env openCircuits)) := by
  have hlists : Lists env (simulate env) (following (transition .running) fun _ =>
      following (publish env (.runStarted env.flow.id env.execution env.input)) fun _ =>
        following (orderOf env) (asksOfVisits env)) := by
    unfold simulate
    refine (calm_transition _).bind_lists fun _ => (calm_publish env _).bind_lists fun _ => ?_
    refine calm_orderOf.bind_lists fun order => (lists_visitAll order).bind_calm fun finished => ?_
    split
    · exact Calm.get_bind fun _ => calm_transition _
    · exact calm_pure _
  exact hlists _

/-- Before an ask of a run come the asks that are listed before it. -/
theorem exists_through_of_asksOf {openCircuits : List String} {past later : List Ask} {a : Ask}
    (h : asksOf env openCircuits = past ++ a :: later) :
    ∃ s, Through env (initialState env openCircuits) past s ∧ Idle s a.state := by
  have hway := through_simulate env openCircuits
  rw [h] at hway
  obtain ⟨s, hpast, hrest⟩ := hway.split
  cases hrest with
  | ask hidle _ => exact ⟨s, hpast, hidle⟩

end

/-! ### Whose asks they are -/

section

variable {env : Env}

private theorem exists_of_mem_following {α : Type} {x : Sim α} {later : α → State → List Ask} {s : State} {a : Ask}
    (h : a ∈ following x later s) : ∃ b s', x s = .ok b s' ∧ a ∈ later b s' := by
  unfold following at h
  split at h
  · next b s' hx => exact ⟨b, s', hx, h⟩
  · simp at h

theorem OutboundCall.eq_of_mem_asks {c : OutboundCall} {remaining number : Nat} {last? : Option FailureCause} {s : State}
    {a : Ask} (h : a ∈ c.asks env remaining number last? s) : a.call = c := by
  induction remaining generalizing number last? s with
  | zero => simp [asks] at h
  | succ remaining ih =>
    obtain ⟨delay, s₁, -, h⟩ := exists_of_mem_following h
    rcases List.mem_cons.1 h with rfl | h
    · rfl
    · obtain ⟨found, s₂, -, h⟩ := exists_of_mem_following h
      rcases found with _ | ⟨taken, _ | cause⟩
      · simp at h
      · simp at h
      · exact ih h

/-- An ask is one of a node: of the call that it makes by its configuration. -/
def Ask.IsOf (env : Env) (n : Node) (a : Ask) : Prop :=
  ∃ config, (∃ s s', semanticsOf env n s = .ok (.builtin config) s') ∧ callOf? n config = some a.call

private theorem isOf_of_mem_asksOfSemantics {n : Node} {m : Semantics} {s s₁ s₂ : State} {a : Ask}
    (hm : semanticsOf env n s₁ = .ok m s₂) (h : a ∈ asksOfSemantics env n m s) : a.IsOf env n := by
  cases m with
  | custom b => simp [asksOfSemantics] at h
  | builtin config =>
    change a ∈ asksOfWork env n config s at h
    unfold asksOfWork at h
    cases hcall : callOf? n config with
    | none => simp [hcall] at h
    | some c =>
      rw [hcall] at h
      exact ⟨config, ⟨s₁, s₂, hm⟩, by rw [hcall, OutboundCall.eq_of_mem_asks h]⟩

private theorem isOf_of_mem_asksOfReinvoke {n : Node} {s : State} {a : Ask} (h : a ∈ asksOfReinvoke env n s) :
    a.IsOf env n := by
  obtain ⟨_, s₁, -, h⟩ := exists_of_mem_following h
  obtain ⟨m, s₂, hm, h⟩ := exists_of_mem_following h
  exact isOf_of_mem_asksOfSemantics hm h

private theorem Retrying.isOf_of_mem_asks {r : Retrying} {remaining done waited : Nat} {last : Failure} {s : State}
    {a : Ask} (h : a ∈ r.asks env remaining done waited last s) : a.IsOf env r.origin := by
  induction remaining generalizing done waited last s with
  | zero => simp [asks] at h
  | succ remaining ih =>
    unfold asks at h
    split at h
    · simp at h
    · rcases List.mem_append.1 h with h | h
      · obtain ⟨_, s₁, -, h⟩ := exists_of_mem_following h
        obtain ⟨_, s₂, -, h⟩ := exists_of_mem_following h
        exact isOf_of_mem_asksOfReinvoke h
      · obtain ⟨o, s₁, -, h⟩ := exists_of_mem_following h
        cases hresult : o.result with
        | ok output => simp [hresult] at h
        | error f =>
          rw [hresult] at h
          exact ih h

/-- What a handler asks, it asks for the node at which a failure arose. -/
private theorem exists_isOf_of_mem_asksOfHandle {n : Node} {c : ErrorHandlerConfig} {incoming : Signal} {s : State}
    {a : Ask} (h : a ∈ asksOfHandle env n c incoming s) : ∃ m ∈ env.flow.nodes, a.IsOf env m := by
  unfold asksOfHandle at h
  cases hfailure : incoming.failure? with
  | none => simp [hfailure] at h
  | some f =>
    rw [hfailure] at h
    dsimp only at h
    split at h
    · simp at h
    · split at h
      · obtain ⟨base, s₁, -, h⟩ := exists_of_mem_following h
        cases horigin : env.flow.node? f.node with
        | none => simp [horigin] at h
        | some origin =>
          rw [horigin] at h
          dsimp only at h
          split at h
          · simp at h
          · exact ⟨origin, (Flow.mem_of_node?_eq_some horigin).1, Retrying.isOf_of_mem_asks h⟩
      · simp at h

private theorem exists_isOf_of_mem_asksOfEngage {n : Node} (hn : n ∈ env.flow.nodes) {input : Cell}
    {incoming : Signal} {s : State} {a : Ask} (h : a ∈ asksOfEngage env n input incoming s) :
    ∃ m ∈ env.flow.nodes, a.IsOf env m := by
  obtain ⟨_, s₁, -, h⟩ := exists_of_mem_following h
  obtain ⟨_, s₂, -, h⟩ := exists_of_mem_following h
  obtain ⟨_, s₃, -, h⟩ := exists_of_mem_following h
  obtain ⟨m, s₄, hm, h⟩ := exists_of_mem_following h
  rcases m with config | b
  · cases config with
    | errorHandler c => exact exists_isOf_of_mem_asksOfHandle h
    | ingress _ | transform _ | connector _ | serviceCall _ | condition _ | database _ | serviceBox _ =>
      exact ⟨n, hn, isOf_of_mem_asksOfSemantics hm h⟩
  · simp [asksOfSemantics] at h

private theorem exists_isOf_of_mem_asksOfAttend {n : Node} (hn : n ∈ env.flow.nodes) {s : State} {a : Ask}
    (h : a ∈ asksOfAttend env n s) : ∃ m ∈ env.flow.nodes, a.IsOf env m := by
  obtain ⟨t, s₁, -, h⟩ := exists_of_mem_following h
  split at h
  · exact exists_isOf_of_mem_asksOfEngage hn h
  · dsimp only at h
    split at h
    · simp at h
    · obtain ⟨input, s₂, -, h⟩ := exists_of_mem_following h
      cases input with
      | ok input => exact exists_isOf_of_mem_asksOfEngage hn h
      | error halt => simp at h

private theorem exists_isOf_of_mem_asksOfVisits {ns : List Node} (hns : ∀ n ∈ ns, n ∈ env.flow.nodes) {s : State}
    {a : Ask} (h : a ∈ asksOfVisits env ns s) : ∃ m ∈ env.flow.nodes, a.IsOf env m := by
  induction ns generalizing s with
  | nil => simp [asksOfVisits] at h
  | cons n ns ih =>
    unfold asksOfVisits at h
    split at h
    · simp at h
    · rcases List.mem_append.1 h with h | h
      · exact exists_isOf_of_mem_asksOfAttend (hns n List.mem_cons_self) h
      · obtain ⟨_, s₁, -, h⟩ := exists_of_mem_following h
        exact ih (fun n hn => hns n (List.mem_cons_of_mem _ hn)) h

/-- Only nodes of the flow ask, for the calls that they make. -/
theorem exists_isOf_of_mem_asksOf (valid : env.Valid) {openCircuits : List String} {a : Ask}
    (h : a ∈ asksOf env openCircuits) : ∃ n ∈ env.flow.nodes, a.IsOf env n := by
  obtain ⟨_, s₁, -, h⟩ := exists_of_mem_following h
  obtain ⟨_, s₂, -, h⟩ := exists_of_mem_following h
  obtain ⟨order, s₃, horder, h⟩ := exists_of_mem_following h
  obtain ⟨ingress, stable, hingress, hsome, hstable⟩ := exists_order valid.flow
  rw [orderOf_eq_ok valid.flow hingress hsome] at horder
  cases horder
  rw [← List.append_nil order] at hstable
  exact exists_isOf_of_mem_asksOfVisits hstable.declared h

end

end IntegrationFlow.Run
