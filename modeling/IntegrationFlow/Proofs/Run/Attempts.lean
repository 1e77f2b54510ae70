import IntegrationFlow.Proofs.Run.Protection

/-!
# Calls that fail a number of times

The attempts of a node are counted over the whole run, so a call that is to fail in its first attempts
(`OutboundCall.FailsFirst`) goes on failing when its node is tried again until so many attempts were made. What comes of
such a call depends only on how many attempts were made before it (`OutboundCall.FailsFirst.run`).
-/

namespace IntegrationFlow.Run

open Simulation Sim

/-- No attempt of a node was made when a run begins. -/
theorem attemptsOf_begun (env : Env) (openCircuits : List String) (id : String) :
    (begun env openCircuits).attemptsOf id = 0 := by
  unfold begun endState publish
  by_cases hobserved : env.observed = true
  · rw [if_pos hobserved]
    rfl
  · rw [if_neg hobserved]
    rfl

namespace OutboundCall

/-- An attempt that is made knows how long its node takes. -/
theorem exists_duration_of_attempt {env : Env} {c : OutboundCall} {s s' : State} {x : Int × Option FailureCause}
    (hx : c.attempt env s = .ok x s') : ∃ ms, env.engine.durations.ofNode c.node = .ok ms := by
  unfold attempt at hx
  obtain ⟨number, s₁, -, hx⟩ := exists_of_bind_eq_ok hx
  obtain ⟨ms, s₂, hlatency, -⟩ := exists_of_bind_eq_ok hx
  exact ⟨ms, ((quiet_ofMishap _ _).of_ok hlatency).2⟩

/-- A call that is made knows how long its node takes. -/
theorem exists_duration_of_run {env : Env} {c : OutboundCall} {s s' : State} {report : Report}
    (hbreaker : c.config.circuitBreaker = false) (hx : c.run env s = .ok report s') :
    ∃ ms, env.engine.durations.ofNode c.node = .ok ms := by
  unfold run attempts at hx
  obtain ⟨_, s₁, -, hx⟩ := exists_of_bind_eq_ok hx
  rw [allowed_of_no_breaker hbreaker, pure_bind, if_pos rfl] at hx
  obtain ⟨_, s₂, hattempt, -⟩ := exists_of_bind_eq_ok hx
  exact exists_duration_of_attempt hattempt

/-- A call without a breaker fails in its first attempts, so many of them, and for no other reason: if there is a limit,
its node does not take longer than that. -/
structure FailsFirst (env : Env) (c : OutboundCall) (failures : Nat) : Prop where
  breaker : c.config.circuitBreaker = false
  mode : c.config.failureMode = "error" ∨ c.config.failureMode = "timeout"
  failing : c.config.failAttempts = some failures
  inTime : 0 < c.config.timeout → ∀ ms, env.engine.durations.ofNode c.node = .ok ms → ms ≤ c.config.timeout

namespace FailsFirst

variable {env : Env} {c : OutboundCall} {failures : Nat} (h : c.FailsFirst env failures)

include h

/-- An attempt is successful exactly when it is none of the first. -/
theorem succeeds_iff {ms : Int} (hms : env.engine.durations.ofNode c.node = .ok ms) (number : Nat) :
    c.Succeeds ms number ↔ failures < number := by
  have hfails : c.Fails number ↔ number ≤ failures := by
    have hmode : c.config.failureMode ≠ "none" := by
      rcases h.mode with hmode | hmode <;> simp [hmode]
    simp [Fails, h.failing, hmode]
  have htimely : ¬ (0 < c.config.timeout ∧ (c.config.timeout : Int) < ms) := fun ⟨hpos, hlate⟩ =>
    absurd (h.inTime hpos ms hms) (not_le.2 hlate)
  rw [← not_le, ← hfails]
  exact ⟨fun hsucceeds => hsucceeds.1, fun hnot => ⟨hnot, fun hor => hor.elim htimely fun hboth => hnot hboth.1⟩⟩

/-- A call makes its attempts up to the first that is successful, but no more than it may. -/
theorem run {s s' : State} {report : Report} (hx : c.run env s = .ok report s') :
    let before := s.attemptsOf c.node.id
    s'.attemptsOf c.node.id = before + min (failures - before) c.config.retries + 1 ∧
      report.retryCount = min (failures - before) c.config.retries ∧
      (report.failure? = none ↔ failures < before + (c.config.retries + 1)) := by
  obtain ⟨ms, hms⟩ := exists_duration_of_run h.breaker hx
  obtain ⟨r, s₁, hrun, hends, hcount⟩ := exists_run_eq h.breaker hms s
  obtain ⟨rfl, rfl⟩ : r = report ∧ s₁ = s' := by
    rw [hx] at hrun
    cases hrun
    exact ⟨rfl, rfl⟩
  have hfailed (k : Nat) (hk : k < r.retryCount) : s.attemptsOf c.node.id + k + 1 ≤ failures :=
    not_lt.1 (mt (h.succeeds_iff hms _).2 (hends.failed k hk))
  have hlast : failures < s.attemptsOf c.node.id + r.retryCount + 1 ∨ r.retryCount = c.config.retries :=
    hends.last.imp_left (h.succeeds_iff hms _).1
  have hverdict : r.failure? = none ↔ failures < s.attemptsOf c.node.id + r.retryCount + 1 := by
    rw [hends.failure, failureAt?_eq_none_iff, h.succeeds_iff hms]
  have hle := hends.retryCount_le
  have hbefore := hfailed (r.retryCount - 1)
  dsimp only
  rw [hverdict]
  refine ⟨?_, ?_, ?_⟩ <;> omega

end FailsFirst

end OutboundCall

/-! ### Nodes whose calls fail -/

/-- How a node fares whose call fails in its first attempts, when some attempts were made before. -/
structure Fares (c : OutboundCall) (failures before : Nat) (o : NodeOutcome) (after : Nat) : Prop where
  count : after = before + min (failures - before) c.config.retries + 1
  retries : o.retryCount = min (failures - before) c.config.retries
  verdict : o.failure? = none ↔ failures < before + (c.config.retries + 1)

section

variable {env : Env} {n : Node} {c : OutboundCall} {failures : Nat} {s s' : State} {o : NodeOutcome}

theorem OutboundCall.FailsFirst.outcome (h : c.FailsFirst env failures) {answer : Cell}
    {called? : Option (Value × Value)} (hx : c.outcome env answer called? s = .ok o s') :
    Fares c failures (s.attemptsOf c.node.id) o (s'.attemptsOf c.node.id) := by
  unfold OutboundCall.outcome at hx
  obtain ⟨report, s₁, hrun, hx⟩ := exists_of_bind_eq_ok hx
  obtain ⟨hcount, hretries, hverdict⟩ := h.run hrun
  cases hx
  refine ⟨hcount, hretries, ?_⟩
  rw [← hverdict]
  cases report.failure? <;> simp [NodeOutcome.failure?]

/-- A node whose call fails in its first attempts is tried again. -/
theorem OutboundCall.FailsFirst.reinvoke (h : c.FailsFirst env failures) (valid : env.Valid)
    (hn : n ∈ env.flow.nodes) (hcall : MakesCall n c) {p : Place} (hx : reinvoke env n p s = .ok o s') :
    Fares c failures (s.attemptsOf n.id) o (s'.attemptsOf n.id) := by
  obtain rfl := hcall.node_eq
  obtain ⟨answer, called?, -, hreinvoke⟩ := hcall.exists_reinvoke_eq (valid.exists_kind hn)
  rw [hreinvoke] at hx
  obtain ⟨o', s₁, houtcome, htimed⟩ := exists_of_bind_eq_ok hx
  have hfares := h.outcome houtcome
  obtain ⟨-, d, rfl⟩ := (quiet_finishTiming env c.node o' s₁).of_ok htimed
  refine ⟨?_, hfares.retries, hfares.verdict⟩
  rw [(calm_finishTiming o').attemptsOf_eq htimed]
  exact hfares.count

end

/-! ### What leaves a node alone -/

/-- No attempt of a node was made, and no record of it was added. -/
structure Untouched (id : String) (s s' : State) : Prop where
  attempts : s'.attemptsOf id = s.attemptsOf id
  records : s'.records.filter (·.node == id) = s.records.filter (·.node == id)

theorem Untouched.refl (id : String) (s : State) : Untouched id s s :=
  ⟨rfl, rfl⟩

theorem Untouched.trans {id : String} {s s' s'' : State} (h : Untouched id s s') (h' : Untouched id s' s'') :
    Untouched id s s'' :=
  ⟨h'.attempts.trans h.attempts, h'.records.trans h.records⟩

/-- Whenever a computation gives a result, it has left a node alone. -/
def Leaves {α : Type} (id : String) (x : Sim α) : Prop :=
  ∀ s a s', x s = .ok a s' → Untouched id s s'

section

variable {α β : Type} {id : String} {env : Env}

theorem Leaves.bind {x : Sim α} {k : α → Sim β} (h : Leaves id x) (hk : ∀ a, Leaves id (k a)) :
    Leaves id (x >>= k) := by
  intro s b s' hx
  obtain ⟨a, s₁, hfirst, hx⟩ := exists_of_bind_eq_ok hx
  exact (h s a s₁ hfirst).trans (hk a s₁ b s' hx)

/-- What is calm and quiet leaves every node alone. -/
theorem Calm.leaves {x : Sim α} (h : Calm x) {p : α → Prop} (hquiet : Quiet x p) : Leaves id x := by
  intro s a s' hx
  have hledger := ((hquiet s).of_ok hx).1
  refine ⟨h.attemptsOf_eq hx id, ?_⟩
  rw [show s'.records = s.records from congrArg Ledger.records hledger]

theorem leaves_pure (a : α) : Leaves id (pure a) :=
  (calm_pure a).leaves (p := fun _ => True) (quiet_pure trivial)

theorem leaves_recordOutcome {n : Node} (hn : n.id ≠ id) (o : NodeOutcome) (p : Place) :
    Leaves id (recordOutcome env n o p) := by
  intro s a s' hx
  obtain ⟨r, htells, hledger⟩ := (meets_recordOutcome env n o p s).of_ok hx
  refine ⟨(calm_recordOutcome o p).attemptsOf_eq hx id, ?_⟩
  rw [show s'.records = s.records ++ [r] from congrArg Ledger.records hledger, List.filter_append]
  have hother : (r.node == id) = false := by simpa [htells.node] using hn
  simp [hother]

namespace OutboundCall

variable {c : OutboundCall} (hc : c.node.id ≠ id)

include hc

/-- An attempt of another node. -/
theorem leaves_attempt : Leaves id (c.attempt env) := by
  intro s x s' hx
  obtain ⟨ms, hms⟩ := exists_duration_of_attempt hx
  obtain ⟨s₁, hmade, -, hcounted, -⟩ := c.exists_attempt_eq env hms s
  rw [hx] at hmade
  cases hmade
  have hledger := ((c.quiet_attempt env s).of_ok hx).1
  refine ⟨?_, ?_⟩
  · rw [attemptsOf_of_counted hcounted, if_neg hc, Nat.add_zero]
  · rw [show s'.records = s.records from congrArg Ledger.records hledger]

theorem leaves_attempts (remaining number : Nat) (elapsed : Int) (last? : Option FailureCause) :
    Leaves id (c.attempts env remaining number elapsed last?) := by
  induction remaining generalizing number elapsed last? with
  | zero => exact leaves_pure _
  | succ remaining ih =>
    have hallowed : Leaves id c.allowed := by
      intro s allowed s' hx
      rw [c.allowed_eq s] at hx
      cases hx
      exact ⟨rfl, rfl⟩
    unfold OutboundCall.attempts
    have hbefore : Leaves id (c.beforeAttempt env number last?) :=
      (c.calm_beforeAttempt env number last?).leaves (c.quiet_beforeAttempt env number last?)
    refine hbefore.bind fun delay => ?_
    refine hallowed.bind fun allowed => ?_
    split
    · refine (leaves_attempt hc).bind fun x => ?_
      dsimp only
      split
      · exact leaves_pure _
      · exact ih _ _ _
    · exact leaves_pure _

end OutboundCall

/-- Another node is carried out that is no error handler. -/
theorem leaves_work {n : Node} (hn : n.id ≠ id) (config : Config) (b : Birth) (input : Cell) :
    Leaves id (work env n config b input) := by
  cases config with
  | connector c => exact (OutboundCall.leaves_attempts hn _ _ _ _).bind fun _ => leaves_pure _
  | serviceCall c => exact (OutboundCall.leaves_attempts hn _ _ _ _).bind fun _ => leaves_pure _
  | transform c => exact (calm_settle _ _).leaves (quiet_work env n (.transform c) b input)
  | condition c => exact (calm_settle _ _).leaves (quiet_work env n (.condition c) b input)
  | database c => exact (calm_query c b input).leaves (quiet_query env n c b input)
  | ingress _ | serviceBox _ | errorHandler _ => exact leaves_pure _

theorem leaves_finishTiming (n : Node) (o : NodeOutcome) : Leaves id (finishTiming env n o) :=
  (calm_finishTiming o).leaves (quiet_finishTiming env n o)

end

section

variable {env : Env} (valid : env.Valid) {n : Node} (hn : n ∈ env.flow.nodes) {id : String}

include valid hn

/-- Another node is tried again. -/
theorem leaves_reinvoke (hne : n.id ≠ id) (p : Place) : Leaves id (reinvoke env n p) := by
  obtain ⟨config, -, -, hok⟩ := valid.exists_semanticsOf hn
  unfold reinvoke
  refine ((calm_read _).leaves (quiet_read _)).bind fun input => ?_
  intro s o s' hx
  rw [bind_eq_of_ok _ (hok s)] at hx
  exact ((leaves_work hne config _ input).bind (leaves_finishTiming n)) s o s' hx

end

/-! ### Visits of other nodes -/

/-- An error handler tries nodes again, each at most so many times. -/
def TriesAgain (f : Flow) (n : Node) (limit : Nat) : Prop :=
  ∃ c, n.type = Kind.errorHandler.name ∧ Kind.errorHandler.read n.data.config = .fits (.errorHandler c) ∧
    strategyOf f.config c = (Strategy.retry.name, limit)

/-- What comes in makes an error handler turn to a node. -/
def TurnsTo (f : Flow) (n : Node) (incoming : Signal) (id : String) : Prop :=
  ∃ limit failure, TriesAgain f n limit ∧ incoming.failure? = some failure ∧ failure.node = id

/-- Up to the moment at which a node is carried out only values have changed. -/
structure Fetched (s s' : State) : Prop where
  attempts : s'.attempts = s.attempts
  ledger : s'.ledger = s.ledger

theorem Fetched.untouched {s s' : State} (h : Fetched s s') (id : String) : Untouched id s s' := by
  refine ⟨by unfold State.attemptsOf; rw [h.attempts], ?_⟩
  rw [show s'.records = s.records from congrArg Ledger.records h.ledger]

/-- What is calm and quiet changes only values. -/
theorem Calm.fetched {α : Type} {x : Sim α} (h : Calm x) {p : α → Prop} (hquiet : Quiet x p) {s s' : State} {a : α}
    (hx : x s = .ok a s') : Fetched s s' :=
  ⟨h.attempts_eq hx, ((hquiet s).of_ok hx).1⟩

section

variable {env : Env} (valid : env.Valid) {n : Node} {id : String} {s s' : State} {o : NodeOutcome} {incoming : Signal}

namespace Retrying

theorem leaves_finish (r : Retrying) (o : NodeOutcome) (waited retryCount : Nat) :
    Leaves id (r.finish o waited retryCount) :=
  (r.calm_finish o waited retryCount).leaves
    ((quiet_advance _).bind fun _ _ => quiet_pure (p := fun _ => True) trivial)

include valid

theorem leaves_again {r : Retrying} (horigin : r.origin ∈ env.flow.nodes) (hne : r.origin.id ≠ id) (number : Nat)
    (last : Failure) : Leaves id (r.again env number last) := by
  unfold again
  refine ((calm_suspend env _).leaves (quiet_suspend env _)).bind fun _ => ?_
  refine ((calm_publish env _).leaves (quiet_publish env _)).bind fun _ => ?_
  refine (leaves_reinvoke valid horigin hne _).bind fun o => ?_
  have hrecorded : Leaves id (recordOutcome env r.origin o (.retried r.handler.id) >>= fun _ => pure o) :=
    (leaves_recordOutcome hne o _).bind fun _ => leaves_pure o
  cases o.result with
  | ok output => exact ((calm_store _ output).leaves (quiet_store _ output)).bind fun _ => hrecorded
  | error f => exact hrecorded

/-- A handler tries another node again. -/
theorem leaves_attempts {r : Retrying} (horigin : r.origin ∈ env.flow.nodes) (hne : r.origin.id ≠ id)
    (remaining done waited : Nat) (last : Failure) : Leaves id (r.attempts env remaining done waited last) := by
  induction remaining generalizing done waited last with
  | zero => exact r.leaves_finish _ _ _
  | succ remaining ih =>
    intro s o s' hx
    cases hcancelled : s.cancelled with
    | true =>
      rw [r.attempts_of_cancelled _ _ _ _ _ hcancelled] at hx
      exact r.leaves_finish _ _ _ s o s' hx
    | false =>
      rw [r.attempts_of_not_cancelled _ _ _ _ _ hcancelled] at hx
      refine ((leaves_again valid horigin hne _ last).bind fun o => ?_) s o s' hx
      unfold afterAgain
      cases o.result with
      | ok product => exact r.leaves_finish _ _ _
      | error f => exact ih _ _ _

end Retrying

include valid

/-- The node at which a failure arose is tried again, and only if it had an input. -/
private theorem untouched_retryOrigin {c : ErrorHandlerConfig} {f : Failure} {limit : Nat}
    (hother : f.node ≠ id ∨ s.invoked.lookup id = none) (hx : retryOrigin env n c f limit s = .ok o s') :
    Untouched id s s' := by
  unfold retryOrigin at hx
  obtain ⟨base, s₁, hbase, hx⟩ := exists_of_bind_eq_ok hx
  have hfetched := (calm_durationOf env n).fetched (quiet_durationOf env n) hbase
  refine (hfetched.untouched id).trans ?_
  cases horigin : env.flow.node? f.node with
  | none =>
    rw [horigin] at hx
    cases hx
    exact .refl id _
  | some origin =>
    rw [horigin] at hx
    dsimp only at hx
    rw [bind_eq_of_ok _ (rfl : (get : Sim State) s₁ = .ok s₁ s₁)] at hx
    obtain ⟨hmem, hid⟩ := Flow.mem_of_node?_eq_some horigin
    split at hx
    · cases hx
      exact .refl id _
    · next hinvoked =>
      have hne : origin.id ≠ id := by
        rintro rfl
        rcases hother with hother | hnone
        · exact hother hid.symm
        · rw [show s₁.invoked = s.invoked from congrArg Ledger.invoked hfetched.ledger, hnone] at hinvoked
          exact hinvoked rfl
      exact Retrying.leaves_attempts (r := ⟨n, c, origin, base⟩) valid hmem hne _ _ _ _ _ _ _ hx

/-- A handler leaves a node alone to which it does not turn, or that had no input yet. -/
theorem untouched_handle {c : ErrorHandlerConfig} (htype : n.type = Kind.errorHandler.name)
    (hread : Kind.errorHandler.read n.data.config = .fits (.errorHandler c)) {b : Birth} {input : Cell}
    (hother : ¬ TurnsTo env.flow n incoming id ∨ s.invoked.lookup id = none)
    (hx : handle env n c b input incoming s = .ok o s') : Untouched id s s' := by
  unfold handle at hx
  cases hf : incoming.failure? with
  | none =>
    rw [hf] at hx
    cases hx
    exact .refl id s
  | some f =>
    rw [hf] at hx
    dsimp only at hx
    split at hx
    · cases hx
      exact .refl id s
    · split at hx
      · next hretry =>
        refine untouched_retryOrigin valid (hother.imp_left fun hother hid => ?_) hx
        exact hother ⟨_, f, ⟨c, htype, hread, Prod.ext (eq_of_beq hretry) rfl⟩, hf, hid⟩
      · cases hx
        exact .refl id s

variable (hn : n ∈ env.flow.nodes)

include hn

theorem untouched_invoke (hne : n.id ≠ id) (hother : ¬ TurnsTo env.flow n incoming id ∨ s.invoked.lookup id = none)
    (hx : invoke env n incoming s = .ok o s') : Untouched id s s' := by
  obtain ⟨config, htype, hread, hok⟩ := valid.exists_semanticsOf hn
  unfold invoke at hx
  obtain ⟨v, s₁, hv, hx⟩ := exists_of_bind_eq_ok hx
  cases hv
  rw [bind_eq_of_ok _ (hok s)] at hx
  cases config with
  | errorHandler c =>
    obtain ⟨o', s₁, hhandle, htimed⟩ := exists_of_bind_eq_ok hx
    exact (untouched_handle valid htype hread hother hhandle).trans (leaves_finishTiming n o' _ _ _ htimed)
  | ingress _ | transform _ | connector _ | serviceCall _ | condition _ | database _ | serviceBox _ =>
    exact ((leaves_work hne _ _ _).bind (leaves_finishTiming n)) _ _ _ hx

/-- A node that tries no other node again adds nothing while it is carried out. -/
theorem ledger_of_invoke (hnever : ∀ limit, ¬ TriesAgain env.flow n limit) (hx : invoke env n incoming s = .ok o s') :
    s'.ledger = s.ledger := by
  obtain ⟨config, htype, hread, hok⟩ := valid.exists_semanticsOf hn
  unfold invoke at hx
  obtain ⟨v, s₁, hv, hx⟩ := exists_of_bind_eq_ok hx
  cases hv
  rw [bind_eq_of_ok _ (hok s)] at hx
  cases config with
  | errorHandler c =>
    obtain ⟨o', s₁, hhandle, htimed⟩ := exists_of_bind_eq_ok hx
    have hsame : s₁ = s := by
      unfold handle at hhandle
      cases hf : incoming.failure? with
      | none =>
        rw [hf] at hhandle
        cases hhandle
        rfl
      | some f =>
        rw [hf] at hhandle
        dsimp only at hhandle
        split at hhandle
        · cases hhandle
          rfl
        · split at hhandle
          · next hretry =>
            exact (hnever _ ⟨c, htype, hread, Prod.ext (eq_of_beq hretry) rfl⟩).elim
          · cases hhandle
            rfl
    rw [← hsame]
    exact ((quiet_finishTiming env n o' s₁).of_ok htimed).1
  | ingress _ | transform _ | connector _ | serviceCall _ | condition _ | database _ | serviceBox _ =>
    obtain ⟨o', s₁, hwork, htimed⟩ := exists_of_bind_eq_ok hx
    exact ((quiet_finishTiming env n o' s₁).of_ok htimed).1.trans ((quiet_work env n _ _ _ s).of_ok hwork).1

omit valid hn

/-- What is done when a node is attended to: nothing comes in, it fails for want of an input, or it is carried out. -/
inductive Attending (env : Env) (n : Node) (s s' : State) : Option (NodeOutcome × Signal) → Prop
  | passed (fetched : Fetched s s') : Attending env n s s' none
  | wanting (o : NodeOutcome) (incoming : Signal) (fetched : Fetched s s') : Attending env n s s' (some (o, incoming))
  | entered (o : NodeOutcome) (incoming : Signal) (s₁ : State) (attempts : s₁.attempts = s.attempts)
    (ledger : s₁.ledger = { s.ledger with invoked := (n.id, incoming) :: s.invoked })
    (invoked : invoke env n incoming s₁ = .ok o s') : Attending env n s s' (some (o, incoming))

private theorem attending_engage {input : Cell} {s₁ : State} (hfetched : Fetched s s₁)
    (hx : engage env n input incoming s₁ = .ok o s') : Attending env n s s' (some (o, incoming)) := by
  unfold engage at hx
  obtain ⟨_, s₂, hstore, hx⟩ := exists_of_bind_eq_ok hx
  cases hstore
  obtain ⟨_, s₂, hinvoked, hx⟩ := exists_of_bind_eq_ok hx
  cases hinvoked
  refine .entered o incoming _ ?_ ?_ hx
  · exact hfetched.attempts
  · exact congrArg (fun l : Ledger => { l with invoked := (n.id, incoming) :: l.invoked }) hfetched.ledger

theorem attending_of_attend {found : Option (NodeOutcome × Signal)} (hx : attend env n s = .ok found s') :
    Attending env n s s' found := by
  unfold attend at hx
  obtain ⟨t, s₁, htype, hrest⟩ := exists_of_bind_eq_ok hx
  obtain rfl : s₁ = s := by
    unfold typeOf at htype
    cases hfind : env.engine.registry.find? n.type with
    | none =>
      rw [hfind] at htype
      cases htype
    | some t =>
      rw [hfind] at htype
      cases htype
      rfl
  split at hrest
  · obtain ⟨o, s₂, hengage, hrest⟩ := exists_of_bind_eq_ok hrest
    cases hrest
    exact attending_engage ⟨rfl, rfl⟩ hengage
  · unfold attendInner at hrest
    rw [bind_eq_of_ok _ (rfl : (get : Sim State) s₁ = .ok s₁ s₁)] at hrest
    split at hrest
    · cases hrest
      exact .passed ⟨rfl, rfl⟩
    · obtain ⟨o, s₂, hengage, hrest⟩ := exists_of_bind_eq_ok hrest
      cases hrest
      unfold engageFrom at hengage
      obtain ⟨input, s₂, hinput, hengage⟩ := exists_of_bind_eq_ok hengage
      have hfetched := (calm_inputOf t _).fetched (quiet_inputOf n t _) hinput
      rcases input with (cause | m) | input
      · have htiming : Calm (finishTiming env n (.failed n.id cause)) := calm_finishTiming _
        have hcalm := (calm_rawInput n (sourcesOf (liveEdges env.flow s₁.signals n))).bind fun raw =>
          (calm_store (.input n.id) raw).bind fun _ => htiming
        have hquiet := (quiet_rawInput n (sourcesOf (liveEdges env.flow s₁.signals n))).bind fun raw _ =>
          (quiet_store (.input n.id) raw).bind fun _ _ => quiet_finishTiming env n (.failed n.id cause)
        have hfailed := hcalm.fetched hquiet hengage
        exact .wanting o _ ⟨hfailed.attempts.trans hfetched.attempts, hfailed.ledger.trans hfetched.ledger⟩
      · cases hengage
      · exact attending_engage hfetched hengage

include valid hn

/-- Completing the visit of a node adds its record. -/
theorem exists_record_of_complete {found : Option (NodeOutcome × Signal)} (hx : complete env n found s = .ok () s') :
    ∃ r : Record, r.node = n.id ∧ s'.records = s.records ++ [r] ∧ s'.invoked = s.invoked := by
  cases found with
  | some x =>
    obtain ⟨r, signals, emitted, htells, -, hledger⟩ := (meets_conclude valid hn x.1 x.2 s).of_ok hx
    exact ⟨r, htells.node, congrArg Ledger.records hledger, congrArg Ledger.invoked hledger⟩
  | none =>
    obtain ⟨_, s₁, hrecord, hx⟩ := exists_of_bind_eq_ok hx
    obtain ⟨signals, -, -, hledger⟩ := (meets_setInactive _ s₁).of_ok hx
    have hrecorded := (meets_record env _).of_ok hrecord
    refine ⟨{ node := n.id, type := n.type, status := .skipped }, rfl, ?_, ?_⟩
    · exact (congrArg Ledger.records hledger : s'.records = s₁.records).trans (congrArg Ledger.records hrecorded)
    · exact (congrArg Ledger.invoked hledger : s'.invoked = s₁.invoked).trans (congrArg Ledger.invoked hrecorded)

/-- The visit of a node that tries no other node again adds one record. -/
theorem exists_record_of_visit (hnever : ∀ limit, ¬ TriesAgain env.flow n limit) (hx : visit env n s = .ok () s') :
    ∃ r : Record, r.node = n.id ∧ s'.records = s.records ++ [r] := by
  rw [visit_eq] at hx
  obtain ⟨found, s₁, hattend, hcomplete⟩ := exists_of_bind_eq_ok hx
  obtain ⟨r, hnode, hrecords, -⟩ := exists_record_of_complete valid hn hcomplete
  refine ⟨r, hnode, ?_⟩
  have hsame : s₁.records = s.records := by
    cases attending_of_attend hattend with
    | passed fetched => exact congrArg Ledger.records fetched.ledger
    | wanting o incoming fetched => exact congrArg Ledger.records fetched.ledger
    | entered o incoming s₂ attempts ledger invoked =>
      have hinvoked := congrArg Ledger.records (ledger_of_invoke valid hn hnever invoked)
      exact hinvoked.trans (congrArg Ledger.records ledger)
  rw [hrecords, hsame]

/-- Completing the visit of another node. -/
theorem leaves_complete (hne : n.id ≠ id) (found : Option (NodeOutcome × Signal)) :
    Leaves id (complete env n found) := by
  intro s _ s' hx
  obtain ⟨r, hnode, hrecords, -⟩ := exists_record_of_complete valid hn hx
  refine ⟨(calm_complete found).attemptsOf_eq hx id, ?_⟩
  have hother : (r.node == id) = false := by simpa [hnode] using hne
  rw [hrecords, List.filter_append]
  simp [hother]

/-- It stays known with what a node was invoked that is carried out. -/
theorem lookup_invoked_of_entered {s₁ s₂ : State}
    (hledger : s₁.ledger = { s.ledger with invoked := (n.id, incoming) :: s.invoked })
    (hinvoked : invoke env n incoming s₁ = .ok o s₂) {found : Option (NodeOutcome × Signal)}
    (hcomplete : complete env n found s₂ = .ok () s') : s'.invoked.lookup n.id = some incoming := by
  obtain ⟨again, -, -, hcarried⟩ := (serves_invoke valid hn incoming s₁).of_ok hinvoked
  obtain ⟨-, -, -, hlast⟩ := exists_record_of_complete valid hn hcomplete
  have hmid : s₂.invoked = s₁.invoked := congrArg Ledger.invoked hcarried
  have hfirst : s₁.invoked = (n.id, incoming) :: s.invoked := congrArg Ledger.invoked hledger
  rw [hlast, hmid, hfirst, List.lookup_cons_self]

/-- The visit of a node leaves another node alone to which it does not turn, or that had no input yet. -/
theorem untouched_visit (hne : n.id ≠ id) (hother : (∀ incoming, s'.invoked.lookup n.id = some incoming →
    ¬ TurnsTo env.flow n incoming id) ∨ s.invoked.lookup id = none) (hx : visit env n s = .ok () s') :
    Untouched id s s' := by
  rw [visit_eq] at hx
  obtain ⟨found, s₁, hattend, hcomplete⟩ := exists_of_bind_eq_ok hx
  refine Untouched.trans ?_ (leaves_complete valid hn hne found _ _ _ hcomplete)
  cases attending_of_attend hattend with
  | passed fetched => exact fetched.untouched id
  | wanting o incoming fetched => exact fetched.untouched id
  | entered o incoming s₂ attempts ledger invoked =>
    have hentered : s₂.invoked = (n.id, incoming) :: s.invoked := congrArg Ledger.invoked ledger
    have hrecords : s₂.records = s.records := congrArg Ledger.records ledger
    have hsame : Untouched id s s₂ := ⟨by unfold State.attemptsOf; rw [attempts], by rw [hrecords]⟩
    have hother : ¬ TurnsTo env.flow n incoming id ∨ s₂.invoked.lookup id = none := by
      rcases hother with hother | hnone
      · exact .inl (hother incoming (lookup_invoked_of_entered valid hn ledger invoked hcomplete))
      · have hbeq : (id == n.id) = false := by simpa using hne.symm
        right
        rw [hentered, List.lookup_cons, hbeq]
        exact hnone
    exact hsame.trans (untouched_invoke valid hn hne hother invoked)

end

end IntegrationFlow.Run
