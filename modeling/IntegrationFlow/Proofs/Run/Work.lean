import IntegrationFlow.Run.Visit
import IntegrationFlow.Proofs.Flow.Valid
import IntegrationFlow.Proofs.NodeType.Config
import IntegrationFlow.Proofs.Run.Sim

/-!
# The work of nodes is quiet

Whatever a node of a built-in kind does, simulated calls and their retries included, is no fault, leaves the ledger of
the run alone, and its outcome is its own (`quiet_work`, `quiet_reinvoke`). Only an error handler does more, and only in
the first place.
-/

namespace IntegrationFlow.Run

open Simulation Sim

/-- A node has not dealt with what came in: it absorbs no failure, and when it fails, the failure arose there. -/
structure NodeOutcome.IsOwn (n : Node) (o : NodeOutcome) : Prop where
  absorbed : o.absorbed = false
  origin : ∀ f, o.failure? = some f → f.node = n.id

/-- A node that was successful and absorbs nothing. -/
theorem NodeOutcome.isOwn_of_success {n : Node} {o : NodeOutcome} (habsorbed : o.absorbed = false)
    (hsuccess : o.failure? = none) : o.IsOwn n := by
  refine ⟨habsorbed, fun f hf => ?_⟩
  rw [hsuccess] at hf
  cases hf

/-- A failure that arises at a node is its own. -/
theorem NodeOutcome.isOwn_failed (n : Node) (cause : FailureCause) : (NodeOutcome.failed n.id cause).IsOwn n :=
  ⟨rfl, fun _ hf => Option.some.inj hf ▸ rfl⟩

/-! ### Calls -/

namespace OutboundCall

variable (c : OutboundCall) (env : Env)

theorem quiet_updateBreaker (change : BreakerPolicy → Nat → Breaker → Breaker) : Quiet (c.updateBreaker change) := by
  unfold updateBreaker
  split
  · exact quiet_modify fun _ => rfl
  · exact quiet_pure trivial

theorem quiet_isOpen : Quiet c.isOpen :=
  Quiet.get_bind fun _ => quiet_pure trivial

theorem quiet_allowed : Quiet c.allowed := by
  unfold allowed
  split
  · exact Quiet.get_bind fun _ => (c.quiet_updateBreaker _).bind fun _ _ => quiet_pure trivial
  · exact quiet_pure trivial

theorem quiet_reportFailure : Quiet (c.reportFailure env) := by
  unfold reportFailure
  refine c.quiet_isOpen.bind fun wasOpen _ => (c.quiet_updateBreaker _).bind fun _ _ => ?_
  refine c.quiet_isOpen.bind fun isOpen _ => ?_
  split
  · exact quiet_publish env _
  · exact quiet_pure trivial

theorem quiet_attempt : Quiet (c.attempt env) := by
  unfold attempt
  refine (quiet_nextAttempt _).bind fun number _ => (quiet_durationOf env _).bind fun latency _ => ?_
  dsimp only
  split
  · exact (quiet_suspend env _).bind fun _ _ => (c.quiet_reportFailure env).bind fun _ _ => quiet_pure trivial
  · refine (quiet_suspend env _).bind fun _ _ => ?_
    split
    · exact (c.quiet_reportFailure env).bind fun _ _ => quiet_pure trivial
    · exact (c.quiet_updateBreaker _).bind fun _ _ => quiet_pure trivial

theorem quiet_beforeAttempt (number : Nat) (last? : Option FailureCause) :
    Quiet (c.beforeAttempt env number last?) := by
  unfold beforeAttempt
  split
  · exact quiet_pure trivial
  · exact (quiet_suspend env _).bind fun _ _ => (quiet_publish env _).bind fun _ _ => quiet_pure trivial

/-- However often a call is tried again. -/
theorem quiet_attempts (remaining number : Nat) (elapsed : Int) (last? : Option FailureCause) :
    Quiet (c.attempts env remaining number elapsed last?) := by
  induction remaining generalizing number elapsed last? with
  | zero => exact quiet_pure trivial
  | succ remaining ih =>
    unfold attempts
    refine (c.quiet_beforeAttempt env number last?).bind fun delay _ => c.quiet_allowed.bind fun allowed _ => ?_
    split
    · refine (c.quiet_attempt env).bind fun taken _ => ?_
      dsimp only
      split
      · exact quiet_pure trivial
      · exact ih _ _ _
    · exact quiet_pure trivial

theorem quiet_outcome (answer : Cell) (called? : Option (Value × Value)) :
    Quiet (c.outcome env answer called?) fun o => o.IsOwn c.node := by
  refine (c.quiet_attempts env _ _ _ _).bind fun report _ => quiet_pure ⟨rfl, fun f hf => ?_⟩
  cases hfailure : report.failure? with
  | none => simp [NodeOutcome.failure?, hfailure] at hf
  | some cause =>
    simp only [NodeOutcome.failure?, hfailure, Option.some.injEq] at hf
    rw [← hf]

end OutboundCall

/-! ### The other kinds -/

theorem quiet_settle {node : String} {r : Outcome NodeOutcome} {p : NodeOutcome → Prop} (hok : ∀ o, r = .ok o → p o)
    (hfailed : ∀ cause, p (.failed node cause)) : Quiet (settle node r) p := by
  unfold settle
  split
  · next o => exact quiet_pure (hok o rfl)
  · next cause => exact quiet_pure (hfailed cause)
  · exact quiet_crashed

/-- A transformation that succeeds gives a value and leaves through the outputs that fit. -/
theorem exists_of_transform {c : TransformConfig} {b : Birth} {input : Cell} {o : NodeOutcome}
    (h : transform c b input = .ok o) : ∃ output, o = { result := .ok output } := by
  unfold transform at h
  split at h
  · split at h
    · cases h; exact ⟨_, rfl⟩
    · cases h
  · split at h
    · split at h
      · cases h; exact ⟨_, rfl⟩
      · cases h
      · cases h
    · split at h
      · cases h; exact ⟨_, rfl⟩
      · cases h

/-- A condition that can be told hands its input on through one of its two outputs. -/
theorem exists_of_choose {c : ConditionConfig} {b : Birth} {input : Cell} {o : NodeOutcome}
    (h : choose c b input = .ok o) :
    ∃ t : Bool, o = { result := .ok input, exits := .only (if t then "true" else "false") } := by
  unfold choose at h
  split at h
  · next t _ => cases h; exact ⟨t, rfl⟩
  · cases h

private theorem isOwn_transform {n : Node} {c : TransformConfig} {b : Birth} {input : Cell} {o : NodeOutcome}
    (h : transform c b input = .ok o) : o.IsOwn n := by
  obtain ⟨_, rfl⟩ := exists_of_transform h
  exact NodeOutcome.isOwn_of_success rfl rfl

private theorem isOwn_choose {n : Node} {c : ConditionConfig} {b : Birth} {input : Cell} {o : NodeOutcome}
    (h : choose c b input = .ok o) : o.IsOwn n := by
  obtain ⟨_, rfl⟩ := exists_of_choose h
  exact NodeOutcome.isOwn_of_success rfl rfl

theorem quiet_query (env : Env) (n : Node) (c : DatabaseConfig) (b : Birth) (input : Cell) :
    Quiet (query env n c b input) (NodeOutcome.IsOwn n) := by
  unfold query
  refine (quiet_durationOf env n).bind fun duration _ => (quiet_suspend env duration).bind fun _ _ => ?_
  split
  · exact quiet_pure ⟨rfl, (NodeOutcome.isOwn_failed n _).origin⟩
  · exact quiet_pure (NodeOutcome.isOwn_of_success rfl rfl)

/-- Nodes of all kinds work quietly, and what they do is their own. -/
theorem quiet_work (env : Env) (n : Node) (c : Config) (b : Birth) (input : Cell) :
    Quiet (work env n c b input) (NodeOutcome.IsOwn n) := by
  cases c with
  | transform c => exact quiet_settle (fun _ h => isOwn_transform h) (NodeOutcome.isOwn_failed n)
  | condition c => exact quiet_settle (fun _ h => isOwn_choose h) (NodeOutcome.isOwn_failed n)
  | connector c => exact OutboundCall.quiet_outcome _ env _ _
  | serviceCall c => exact OutboundCall.quiet_outcome _ env _ _
  | database c => exact quiet_query env n c b input
  | ingress _ => exact quiet_pure (NodeOutcome.isOwn_of_success rfl rfl)
  | serviceBox _ => exact quiet_pure (NodeOutcome.isOwn_of_success rfl rfl)
  | errorHandler _ => exact quiet_pure (NodeOutcome.isOwn_of_success rfl rfl)

/-! ### Nodes of valid flows -/

/-- The flow is valid, and all its nodes are of built-in kinds. -/
structure Env.Valid (env : Env) : Prop where
  builtin : env.engine.registry = .builtin
  flow : env.flow.Valid env.engine.registry

variable {env : Env} {n : Node}

/-- The type of a node is that of a built-in kind. -/
theorem Env.Valid.exists_kind (valid : env.Valid) (hn : n ∈ env.flow.nodes) :
    ∃ k : Kind, n.type = k.name ∧ env.engine.registry.find? n.type = some k.nodeType := by
  obtain ⟨t, ht⟩ := valid.flow.exists_type hn
  have hfind := ht
  rw [valid.builtin] at ht
  obtain ⟨k, rfl, hname⟩ := Registry.exists_kind_of_find?_builtin ht
  exact ⟨k, hname, hfind⟩

theorem typeOf_eq_ok {t : NodeType} (h : env.engine.registry.find? n.type = some t) (s : State) :
    typeOf env n s = .ok t s := by
  unfold typeOf
  rw [h]
  rfl

theorem semanticsOf_eq_ok {k : Kind} {c : Config} (hfind : env.engine.registry.find? n.type = some k.nodeType)
    (hread : k.read n.data.config = .fits c) (s : State) : semanticsOf env n s = .ok (.builtin c) s := by
  unfold semanticsOf
  rw [bind_eq_of_ok _ (typeOf_eq_ok hfind s)]
  dsimp only [Kind.nodeType]
  rw [hread]
  rfl

/-- The configuration of a node is read as one of its kind. -/
theorem Env.Valid.exists_semanticsOf (valid : env.Valid) (hn : n ∈ env.flow.nodes) :
    ∃ c, n.type = c.kind.name ∧ c.kind.read n.data.config = .fits c ∧ ∀ s, semanticsOf env n s = .ok (.builtin c) s := by
  obtain ⟨k, hname, hfind⟩ := valid.exists_kind hn
  obtain ⟨c, hread⟩ := NodeType.exists_read_eq_fits (t := k.nodeType) rfl (valid.flow.configProblems_eq_nil hn hfind)
  have hkind : c.kind = k := Kind.kind_of_read_eq_fits hread
  exact ⟨c, by rw [hkind, hname], by rw [hkind, hread], semanticsOf_eq_ok hfind hread⟩

theorem Env.Valid.quiet_semanticsOf (valid : env.Valid) (hn : n ∈ env.flow.nodes) :
    Quiet (semanticsOf env n) fun m =>
      ∃ c, m = .builtin c ∧ n.type = c.kind.name ∧ c.kind.read n.data.config = .fits c := by
  obtain ⟨c, hname, hread, hok⟩ := valid.exists_semanticsOf hn
  exact fun s => meets_of_ok (hok s) ⟨rfl, c, rfl, hname, hread⟩

/-- The time that a node takes is all that changes in its outcome. -/
theorem quiet_finishTiming (env : Env) (n : Node) (o : NodeOutcome) :
    Quiet (finishTiming env n o) fun done => ∃ d, done = { o with duration? := d } := by
  unfold finishTiming
  split
  · exact quiet_pure ⟨o.duration?, rfl⟩
  · exact (quiet_durationOf env n).bind fun d _ => (quiet_advance d).bind fun _ _ => quiet_pure ⟨some d, rfl⟩

/-- A node that is tried again works quietly, and what it does is its own. -/
theorem Env.Valid.quiet_reinvoke (valid : env.Valid) (hn : n ∈ env.flow.nodes) (p : Place) :
    Quiet (reinvoke env n p) (NodeOutcome.IsOwn n) := by
  unfold reinvoke
  refine (quiet_read _).bind fun input _ => (valid.quiet_semanticsOf hn).bind ?_
  rintro _ ⟨c, rfl, -, -⟩
  refine (quiet_work env n c _ input).bind fun o ho => (quiet_finishTiming env n o).mono ?_
  rintro _ ⟨d, rfl⟩
  exact ⟨ho.absorbed, ho.origin⟩

end IntegrationFlow.Run
