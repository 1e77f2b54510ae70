import IntegrationFlow.Proofs.Run.Effect

/-!
# All work is charged

Whatever time a node takes is in its outcome, and so is every retry that it publishes (`steady_work`, `steady_reinvoke`):
attempts that fail or run into the time limit, the waiting between them, and an open circuit that ends them early. The
record of the outcome settles both (`steady_recordOutcome`), so a node that is concluded leaves no balance.
-/

namespace IntegrationFlow.Run

open Simulation Sim

/-- The time with which the step of a node is charged. -/
def NodeOutcome.charged (o : NodeOutcome) : Int :=
  o.duration?.getD 0

/-- From every state, a node is carried out whose outcome holds the time that has passed and the retries. -/
def Charges (env : Env) (ids : List String) (x : Env → Sim NodeOutcome) : Prop :=
  Steady env ids x NodeOutcome.charged fun o => o.retryCount

section

variable {env : Env} {ids : List String}

/-- A node is done that has taken no time so far. -/
theorem charges_pure {o : NodeOutcome} (hcharged : o.charged = 0) (hretries : o.retryCount = 0) :
    Charges env ids fun _ => pure o :=
  steady_pure hcharged (by rw [hretries]; rfl) trivial

/-- How long a node of a valid flow takes can be told, and it is not negative when no type takes a negative time. -/
theorem Env.Valid.exists_durationOf (valid : env.Valid) {n : Node} (hn : n ∈ env.flow.nodes) :
    ∃ ms, (env.IsTimely → 0 ≤ ms) ∧ ∀ s, durationOf env n s = .ok ms s := by
  obtain ⟨c, -, hread, -⟩ := valid.exists_semanticsOf hn
  obtain ⟨ms, hms, hnonneg⟩ := env.engine.durations.exists_ofNode_eq_ok hread
  refine ⟨ms, fun htimely => hnonneg (htimely _), fun s => ?_⟩
  unfold durationOf
  rw [hms]
  rfl

theorem steady_durationOf (valid : env.Valid) {n : Node} (hn : n ∈ env.flow.nodes) :
    Steady env ids (fun env => durationOf env n) (fun _ => 0) (fun _ => 0) fun ms => env.IsTimely → 0 ≤ ms := by
  obtain ⟨ms, hnonneg, hok⟩ := valid.exists_durationOf hn
  exact steady_of_ok hok hok rfl rfl hnonneg

/-! ### Calls -/

namespace OutboundCall

variable (c : OutboundCall)

theorem steady_updateBreaker (change : BreakerPolicy → Nat → Breaker → Breaker) :
    Steady env ids (fun _ => c.updateBreaker change) (fun _ => 0) fun _ => 0 := by
  unfold updateBreaker
  refine Steady.ite (fun _ => ?_) fun _ => steady_pure rfl rfl trivial
  exact steady_modify (fun _ => Effect.of_eq rfl rfl rfl rfl id) fun _ => rfl

theorem steady_isOpen : Steady env ids (fun _ => c.isOpen) (fun _ => 0) fun _ => 0 :=
  Steady.get_bind (fun _ => rfl) fun _ => steady_pure rfl rfl trivial

theorem steady_allowed : Steady env ids (fun _ => c.allowed) (fun _ => 0) fun _ => 0 := by
  unfold allowed
  refine Steady.ite (fun _ => ?_) fun _ => steady_pure rfl rfl trivial
  refine Steady.get_bind (fun _ => rfl) fun _ => (c.steady_updateBreaker _).bind fun _ _ => ?_
  exact steady_pure rfl rfl trivial

theorem steady_reportFailure : Steady env ids (fun env => c.reportFailure env) (fun _ => 0) fun _ => 0 := by
  unfold reportFailure
  refine c.steady_isOpen.bind fun wasOpen _ => (c.steady_updateBreaker _).bind fun _ _ => ?_
  refine c.steady_isOpen.bind fun isOpen _ => ?_
  refine Steady.ite (fun _ => ?_) fun _ => steady_pure rfl rfl trivial
  have htells : Tells env (.circuitOpened env.flow.id env.execution c.node.id c.circuit) :=
    ⟨.inr (.inr rfl), rfl, rfl⟩
  exact steady_publish rfl htells (by simp [Event.circuitOpened])

/-- The waiting before a retry is one retry; there is none before the first attempt. -/
theorem steady_beforeAttempt (number : Nat) (last? : Option FailureCause) :
    Steady env ids (fun env => c.beforeAttempt env number last?) (fun delay => delay)
      fun _ => if number = 0 then 0 else 1 := by
  unfold beforeAttempt
  refine Steady.ite (fun h => steady_pure rfl (if_pos h) trivial) fun h => ?_
  rw [if_neg h]
  refine (steady_suspend fun _ => Int.natCast_nonneg _).bind fun _ _ => ?_
  refine (steady_publish rfl ⟨.inr (.inl rfl), rfl, rfl⟩ (by simp [Event.nodeRetry])).bind fun _ _ => ?_
  exact steady_pure (by simp) (by simp [Event.nodeRetry]) trivial

variable (valid : env.Valid) (hnode : c.node ∈ env.flow.nodes)

include valid hnode

/-- An attempt gives the time that it has taken. -/
theorem steady_attempt : Steady env ids (fun env => c.attempt env) Prod.fst fun _ => 0 := by
  unfold attempt
  refine (steady_nextAttempt _).bind fun number _ => (steady_durationOf valid hnode).bind fun latency hlatency => ?_
  refine Steady.ite (fun _ => ?_) fun _ => ?_
  · have hwaited (htimely : env.IsTimely) : 0 ≤ c.waitingTime latency := by
      have := hlatency htimely
      unfold waitingTime
      split
      · omega
      · omega
    refine (steady_suspend hwaited).bind fun _ _ => c.steady_reportFailure.bind fun _ _ => ?_
    exact steady_pure (by simp) (by simp) trivial
  · refine (steady_suspend hlatency).bind fun _ _ => Steady.ite (fun _ => ?_) fun _ => ?_
    · exact c.steady_reportFailure.bind fun _ _ => steady_pure (by simp) (by simp) trivial
    · exact (c.steady_updateBreaker _).bind fun _ _ => steady_pure (by simp) (by simp) trivial

/-- However often a call is tried again: after the first attempt, every further one is a retry. -/
theorem steady_attempts (remaining number : Nat) (elapsed : Int) (last? : Option FailureCause) :
    Steady env ids (fun env => c.attempts env remaining number elapsed last?) (fun report => report.elapsed - elapsed)
      fun report => report.retryCount - (number - 1 : Nat) := by
  induction remaining generalizing number elapsed last? with
  | zero => exact steady_pure (by simp) (by simp) trivial
  | succ remaining ih =>
    have hcount : ((number - 1 : Nat) : Int) + (if number = 0 then 0 else 1) = number := by
      split
      · omega
      · omega
    unfold attempts
    refine (c.steady_beforeAttempt number last?).bind fun delay _ => c.steady_allowed.bind fun allowed _ => ?_
    refine Steady.ite (fun _ => ?_) fun _ => ?_
    · refine (c.steady_attempt valid hnode).bind ?_
      rintro ⟨taken, failure?⟩ -
      cases failure? with
      | none => exact steady_pure (by dsimp only; omega) (by dsimp only; omega) trivial
      | some cause =>
        refine (ih (number + 1) (elapsed + delay + taken) (some cause)).congr (fun report _ => ?_) (fun report _ => ?_)
          fun _ _ => trivial
        · dsimp only
          omega
        · rw [Nat.add_sub_cancel]
          omega
    · exact steady_pure (by dsimp only; omega) (by dsimp only; omega) trivial

theorem charges_outcome (answer : Cell) (called? : Option (Value × Value)) :
    Charges env ids fun env => c.outcome env answer called? := by
  refine (c.steady_attempts valid hnode _ _ _ _).bind fun report _ => steady_pure ?_ ?_ trivial
  · simp [NodeOutcome.charged]
  · simp

end OutboundCall

/-! ### The other kinds -/

theorem charges_settle {node : String} {r : Outcome NodeOutcome}
    (h : ∀ o, r = .ok o → o.charged = 0 ∧ o.retryCount = 0) : Charges env ids fun _ => settle node r := by
  unfold settle
  split
  · next o => exact charges_pure (h o rfl).1 (h o rfl).2
  · exact charges_pure rfl rfl
  · exact steady_throw

variable (valid : env.Valid) {n : Node} (hn : n ∈ env.flow.nodes)

include valid hn

theorem charges_query (c : DatabaseConfig) (b : Birth) (input : Cell) :
    Charges env ids fun env => query env n c b input := by
  unfold query
  refine (steady_durationOf valid hn).bind fun duration hduration => (steady_suspend hduration).bind fun _ _ => ?_
  refine Steady.ite (fun _ => ?_) fun _ => ?_
  · exact steady_pure (by simp [NodeOutcome.charged]) (by simp [NodeOutcome.failed]) trivial
  · exact steady_pure (by simp [NodeOutcome.charged]) (by simp) trivial

/-- Nodes of all kinds are charged with the time that they take. -/
theorem charges_work (c : Config) (b : Birth) (input : Cell) : Charges env ids fun env => work env n c b input := by
  cases c with
  | transform c =>
    refine charges_settle fun o ho => ?_
    obtain ⟨_, rfl⟩ := exists_of_transform ho
    exact ⟨rfl, rfl⟩
  | condition c =>
    refine charges_settle fun o ho => ?_
    obtain ⟨_, rfl⟩ := exists_of_choose ho
    exact ⟨rfl, rfl⟩
  | connector c => exact OutboundCall.charges_outcome _ valid hn _ _
  | serviceCall c => exact OutboundCall.charges_outcome _ valid hn _ _
  | database c => exact charges_query valid hn c b input
  | ingress _ | serviceBox _ | errorHandler _ => exact charges_pure rfl rfl

theorem steady_semanticsOf : Steady env ids (fun env => semanticsOf env n) (fun _ => 0) (fun _ => 0) fun m =>
    ∃ c, m = .builtin c ∧ n.type = c.kind.name ∧ c.kind.read n.data.config = .fits c := by
  obtain ⟨c, hname, hread, hok⟩ := valid.exists_semanticsOf hn
  exact steady_of_ok hok hok rfl rfl ⟨c, rfl, hname, hread⟩

/-- A node that has not said how long it took is charged now. -/
theorem steady_finishTiming (o : NodeOutcome) :
    Steady env ids (fun env => finishTiming env n o) (fun done => done.charged - o.charged)
      (fun done => done.retryCount - o.retryCount) fun done => ∃ ms, done = { o with duration? := some ms } := by
  unfold finishTiming
  cases hduration : o.duration? with
  | some ms => exact steady_pure (sub_self _) (sub_self _) ⟨ms, by rw [← hduration]⟩
  | none =>
    refine (steady_durationOf valid hn).bind fun ms hms => (steady_advance hms).bind fun _ _ => ?_
    refine steady_pure ?_ ?_ ⟨ms, rfl⟩
    · simp [NodeOutcome.charged, hduration]
    · simp

/-- The outcome of a node is its whole charge once it says how long the node took. -/
theorem Charges.timed {x : Env → Sim NodeOutcome} (h : Charges env ids x) :
    Charges env ids fun env => x env >>= finishTiming env n :=
  h.bind fun o _ => (steady_finishTiming valid hn o).congr (fun _ _ => rfl) (fun _ _ => rfl) fun _ _ => trivial

/-- A node that is tried again is charged like one that is carried out for the first time. -/
theorem charges_reinvoke (p : Place) : Charges env ids fun env => reinvoke env n p := by
  unfold reinvoke
  refine (steady_read _).bind fun input _ => (steady_semanticsOf valid hn).bind ?_
  rintro _ ⟨c, rfl, -, -⟩
  refine ((charges_work valid hn c _ input).timed valid hn).congr ?_ ?_ fun _ _ => trivial
  · simp
  · simp

omit valid hn

/-! ### Records and edges -/

/-- The step of a node settles what it has done. -/
theorem steady_recordOutcome {o : NodeOutcome} {p : Place} (hp : o.failure? = none → p.owner ∈ ids) :
    Steady env ids (fun env => recordOutcome env n o p) (fun _ => -o.charged) fun _ => -o.retryCount := by
  refine steady_record ⟨fun q hq => (Option.some.inj hq).symm, fun q hq => ?_⟩
  dsimp only at hq
  cases hfailure : o.failure? with
  | some f => simp [hfailure] at hq
  | none =>
    rw [hfailure] at hq
    cases hq
    exact ⟨rfl, hp hfailure⟩

theorem steady_setSignals (n : Node) (o : NodeOutcome) (payload : Place) (failure? : Option Failure) (es : List Edge) :
    Steady env ids (fun _ => setSignals n o payload failure? es) (fun _ => 0) fun _ => 0 := by
  induction es with
  | nil => exact steady_pure rfl rfl trivial
  | cons e es ih =>
    unfold setSignals
    cases n.output? e.sourcePort? with
    | none => exact steady_throw
    | some port =>
      refine (steady_ofMishap _ (fun _ _ => rfl) fun _ _ => rfl).bind fun selected _ => ?_
      refine (steady_setSignal _ _).bind fun _ _ => ih.bind fun later _ => ?_
      exact steady_pure rfl rfl trivial

theorem steady_route (n : Node) (o : NodeOutcome) (incoming : Signal) :
    Steady env ids (fun env => route env n o incoming) (fun _ => 0) fun _ => 0 := by
  refine Steady.of_eq (y := fun _ => route env n o incoming) ?_ rfl rfl
  unfold route
  refine (steady_setSignals n o _ _ _).bind fun emitted _ => ?_
  cases outstanding o incoming with
  | none => exact steady_pure rfl rfl trivial
  | some f =>
    refine Steady.ite (fun _ => steady_pure rfl rfl trivial) fun _ => ?_
    exact steady_modify (fun _ => Effect.of_eq rfl rfl rfl rfl id) fun _ => rfl

/-- A node that is concluded leaves no balance. -/
theorem steady_conclude (hid : n.id ∈ ids) (o : NodeOutcome) (incoming : Signal) :
    Steady env ids (fun env => conclude env n o incoming) (fun _ => -o.charged) fun _ => -o.retryCount := by
  unfold conclude storeOutput
  have hstore (c : Cell) : Steady env ids (fun _ => store (.output n.id) c) (fun _ => 0) fun _ => 0 :=
    steady_store hid c
  refine (hstore _).bind fun _ _ => (steady_recordOutcome fun _ => hid).bind fun _ _ => ?_
  exact (steady_route n o incoming).congr (by simp) (by simp) fun _ _ => trivial

theorem steady_skip (n : Node) : Steady env ids (fun env => skip env n) (fun _ => 0) fun _ => 0 := by
  refine Steady.bind (x := fun env => record env _) (steady_record ⟨nofun, nofun⟩) fun _ _ => ?_
  refine Steady.of_eq (y := fun _ => (env.flow.outgoing n.id).forM fun e => setSignal e.id .inactive) ?_ rfl rfl
  induction env.flow.outgoing n.id with
  | nil => exact steady_pure rfl rfl trivial
  | cons e es ih => exact (steady_setSignal _ _).bind fun _ _ => ih

/-! ### The input of a node -/

/-- An edge that spares its source only reads. -/
theorem steady_handOver (n : Node) {e : Edge} (he : e ∈ env.flow.edges) (payload : Place) :
    Steady env ids (fun _ => handOver n e payload) (fun _ => 0) fun _ => 0 := by
  unfold handOver
  refine (steady_read _).bind fun source _ => ?_
  let write (s : State) : State := { s with documents := s.documents.writeAll (e.mapInputs source).writes }
  have hwrite : Steady env ids (fun _ => modify write) (fun _ => 0) fun _ => 0 := by
    refine steady_modify (fun s => ⟨[], [], ?_, (List.append_nil _).symm, ?_, ?_, ?_, ?_, fun hspares p _ => ?_, ?_, id⟩)
      fun _ => rfl
    · simp [write]
    · simp [write]
    · simp
    · simp
    · simp
    · dsimp only [write]
      rw [hspares e he source, Documents.writeAll_nil]
    · simp
  refine hwrite.bind fun _ _ => ?_
  cases (e.mapInputs source).result with
  | error halt => exact steady_pure rfl rfl trivial
  | ok c =>
    cases n.input? e.targetPort? with
    | none => exact steady_pure rfl rfl trivial
    | some port => exact Steady.ite (fun _ => steady_pure rfl rfl trivial) fun _ => steady_pure rfl rfl trivial

theorem steady_handOverAll (n : Node) {live : List (Edge × Place)} (hlive : ∀ x ∈ live, x.1 ∈ env.flow.edges) :
    Steady env ids (fun _ => handOverAll n live) (fun _ => 0) fun _ => 0 := by
  induction live with
  | nil => exact steady_pure rfl rfl trivial
  | cons first rest ih =>
    unfold handOverAll
    refine (steady_handOver n (hlive first List.mem_cons_self) _).bind fun r _ => ?_
    cases r with
    | error halt => exact steady_pure rfl rfl trivial
    | ok c =>
      refine (ih fun x hx => hlive x (List.mem_cons_of_mem _ hx)).bind fun rs _ => ?_
      cases rs with
      | error halt => exact steady_pure rfl rfl trivial
      | ok cs => exact steady_pure rfl rfl trivial

theorem steady_inputOf (n : Node) (t : NodeType) {live : List (Edge × Place)}
    (hlive : ∀ x ∈ live, x.1 ∈ env.flow.edges) :
    Steady env ids (fun _ => inputOf n t live) (fun _ => 0) fun _ => 0 := by
  unfold inputOf
  refine Steady.ite (fun _ => steady_pure rfl rfl trivial) fun _ => ?_
  refine (steady_handOverAll n hlive).bind fun r _ => ?_
  cases r with
  | error halt => exact steady_pure rfl rfl trivial
  | ok cs => exact steady_pure rfl rfl trivial

private theorem steady_mapM {α β : Type} {f : α → Sim β}
    (hf : ∀ a, Steady env ids (fun _ => f a) (fun _ => 0) fun _ => 0) (as : List α) :
    Steady env ids (fun _ => as.mapM f) (fun _ => 0) fun _ => 0 := by
  induction as with
  | nil => exact steady_pure rfl rfl trivial
  | cons a as ih =>
    rw [List.mapM_cons]
    exact (hf a).bind fun _ _ => ih.bind fun _ _ => steady_pure rfl rfl trivial

theorem steady_rawInput (n : Node) (live : List (Edge × Place)) :
    Steady env ids (fun _ => rawInput n live) (fun _ => 0) fun _ => 0 :=
  (steady_mapM (fun _ => steady_read _) live).bind fun _ _ => steady_pure rfl rfl trivial

end

end IntegrationFlow.Run
