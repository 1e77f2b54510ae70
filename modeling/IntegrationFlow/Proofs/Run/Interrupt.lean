import IntegrationFlow.Proofs.Run.Attend
import IntegrationFlow.Proofs.Run.Charge

/-!
# What a cancellation does to a visit

Only error handlers look at whether the run was cancelled. So a visit adds what it would have added without the
cancellation, or it is the visit of a handler that gives up early, and all but its own step is what it would have added
(`interruptible_visit`). Either way it leaves no balance.
-/

namespace IntegrationFlow.Run

open Simulation Sim

/-- A node is an error handler that may make more attempts than it has made. -/
structure LeavesAttempts (f : Flow) (n : Node) (made : Nat) : Prop where
  type : n.type = Kind.errorHandler.name
  config : ∃ c, Kind.errorHandler.read n.data.config = .fits (.errorHandler c) ∧
    (strategyOf f.config c).1 = Strategy.retry.name ∧ made < (strategyOf f.config c).2

/-- From every state, the effect of a computation leaves a balance, and without a cancellation it would have given the
same, unless it was cut short. Then it has the records in common with the computation that was not. -/
def Interruptible {α : Type} (env : Env) (ids : List String) (x : Env → Sim α) (time retries : α → Int)
    (cut : α → State → List Record → Prop) : Prop :=
  ∀ s a s', x env s = .ok a s' → Effect env ids (time a) (retries a) s s' ∧
    (x env.uncancelled s.uncancelled = .ok a s'.uncancelled ∨ s'.cancelled = true ∧ ∃ common, cut a s' common ∧
      ∀ b s₀, x env.uncancelled s.uncancelled = .ok b s₀ → common <+: s₀.records)

section

variable {α β : Type} {env : Env} {ids : List String} {x y : Env → Sim α} {k : α → Env → Sim β}
  {time retries : α → Int} {time' retries' : β → Int} {p : α → Prop}
  {cut : α → State → List Record → Prop} {cut' : β → State → List Record → Prop}

theorem Steady.interruptible (h : Steady env ids x time retries p) : Interruptible env ids x time retries cut := by
  intro s a s' hx
  obtain ⟨heffect, -, hsame⟩ := h s a s' hx
  exact ⟨heffect, .inl hsame⟩

theorem interruptible_pure {a : α} (htime : time a = 0) (hretries : retries a = 0) :
    Interruptible env ids (fun _ => pure a) time retries cut :=
  (steady_pure (p := fun _ => True) htime hretries trivial).interruptible

theorem Interruptible.congr {time' retries' : α → Int} {cut' : α → State → List Record → Prop}
    (h : Interruptible env ids x time retries cut) (htime : ∀ a, time a = time' a)
    (hretries : ∀ a, retries a = retries' a) (himp : ∀ a s common, cut a s common → cut' a s common) :
    Interruptible env ids x time' retries' cut' := by
  intro s a s' hx
  obtain ⟨heffect, hcases⟩ := h s a s' hx
  refine ⟨heffect.congr (htime a) (hretries a), hcases.imp_right ?_⟩
  rintro ⟨hcancelled, common, hcommon, hlonger⟩
  exact ⟨hcancelled, common, himp a s' common hcommon, hlonger⟩

theorem Interruptible.of_eq (h : Interruptible env ids y time retries cut) (henv : x env = y env)
    (huncancelled : x env.uncancelled = y env.uncancelled) : Interruptible env ids x time retries cut := by
  intro s a s' hx
  rw [henv] at hx
  rw [huncancelled]
  exact h s a s' hx

/-- A computation that looks at the state, but not at whether the run was cancelled. -/
theorem Interruptible.get_bind {k : State → Env → Sim α} (hk : ∀ s, k s.uncancelled = k s)
    (h : ∀ s, Interruptible env ids (k s) time retries cut) :
    Interruptible env ids (fun env => get >>= fun s => k s env) time retries cut := by
  intro s a s' hs
  obtain ⟨heffect, hcases⟩ := h s s a s' hs
  refine ⟨heffect, ?_⟩
  change k s.uncancelled env.uncancelled s.uncancelled = _ ∨ _ ∧ ∃ common, _ ∧
    ∀ b s₀, k s.uncancelled env.uncancelled s.uncancelled = _ → _
  rw [hk]
  exact hcases

theorem Interruptible.ite {c : Prop} [Decidable c] (hx : c → Interruptible env ids x time retries cut)
    (hy : ¬ c → Interruptible env ids y time retries cut) :
    Interruptible env ids (fun env => if c then x env else y env) time retries cut := by
  by_cases hc : c
  · exact (hx hc).of_eq (if_pos hc) (if_pos hc)
  · exact (hy hc).of_eq (if_neg hc) (if_neg hc)

/-- What comes before a computation does not depend on a cancellation. -/
theorem Steady.bind_interruptible (h : Steady env ids x time retries p)
    (hk : ∀ a, p a →
      Interruptible env ids (k a) (fun b => time' b - time a) (fun b => retries' b - retries a) cut') :
    Interruptible env ids (fun env => x env >>= fun a => k a env) time' retries' cut' := by
  intro s b s' hs
  obtain ⟨a, s₁, hx, hka⟩ := exists_of_bind_eq_ok hs
  obtain ⟨heffect, hp, hsame⟩ := h s a s₁ hx
  obtain ⟨heffect', hcases⟩ := hk a hp s₁ b s' hka
  refine ⟨(heffect.trans heffect').congr (add_sub_cancel _ _) (add_sub_cancel _ _), ?_⟩
  dsimp only
  rw [bind_eq_of_ok _ hsame]
  exact hcases

/-- What comes after a computation adds to what it would have added without the cancellation. -/
theorem Interruptible.bind (h : Interruptible env ids x time retries cut)
    (hk : ∀ a, Steady env ids (k a) (fun b => time' b - time a) (fun b => retries' b - retries a))
    (hcut : ∀ a s common b s', cut a s common → k a env s = .ok b s' → cut' b s' common)
    (hbegins : ∀ a s b s', k a env.uncancelled s = .ok b s' → s.records <+: s'.records) :
    Interruptible env ids (fun env => x env >>= fun a => k a env) time' retries' cut' := by
  intro s b s' hs
  obtain ⟨a, s₁, hx, hka⟩ := exists_of_bind_eq_ok hs
  obtain ⟨heffect, hcases⟩ := h s a s₁ hx
  obtain ⟨heffect', -, hsame'⟩ := hk a s₁ b s' hka
  refine ⟨(heffect.trans heffect').congr (add_sub_cancel _ _) (add_sub_cancel _ _), ?_⟩
  rcases hcases with hsame | ⟨hcancelled, common, hcommon, hlonger⟩
  · exact .inl ((bind_eq_of_ok _ hsame).trans hsame')
  · refine .inr ⟨heffect'.cancelled_mono hcancelled, common, hcut a s₁ common b s' hcommon hka, fun c s₀ hs₀ => ?_⟩
    obtain ⟨a', s₂, hx', hka'⟩ := exists_of_bind_eq_ok hs₀
    exact (hlonger a' s₂ hx').trans (hbegins a' s₂ c s₀ hka')

end

/-! ### Error handlers -/

namespace Retrying

variable (r : Retrying)

/-- One more attempt of a handler, after some waiting. -/
def again (env : Env) (number : Nat) (last : Failure) : Sim NodeOutcome := do
  suspend env (backoffDelay r.config.backoffStrategy r.config.backoffMs number)
  publish env (.nodeRetry env.flow.id env.execution r.origin.id (.int number) (.text last.cause.message))
  let o ← reinvoke env r.origin (.retried r.handler.id)
  match o.result with
  | .ok output => store (.retried r.handler.id) output
  | .error _ => pure ()
  recordOutcome env r.origin o (.retried r.handler.id)
  return o

/-- What a handler does after an attempt: it is done when the node was successful, and goes on when it was not. -/
def afterAgain (env : Env) (remaining number waited : Nat) (o : NodeOutcome) : Sim NodeOutcome :=
  match o.result with
  | .ok output => r.finish { result := .ok output, exits := .only handledPort, absorbed := true } waited number
  | .error f => r.attempts env remaining number waited f

theorem attempts_of_cancelled (env : Env) (remaining done waited : Nat) (last : Failure) {s : State}
    (h : s.cancelled = true) :
    r.attempts env (remaining + 1) done waited last s = r.finish (passOn last) waited done s := by
  unfold attempts
  refine (bind_eq_of_ok _ rfl).trans ?_
  rw [if_pos h]

/-- A handler makes one attempt after another while the run is not cancelled. -/
theorem attempts_of_not_cancelled (env : Env) (remaining done waited : Nat) (last : Failure) {s : State}
    (h : s.cancelled = false) : r.attempts env (remaining + 1) done waited last s =
      (r.again env (done + 1) last >>= r.afterAgain env remaining (done + 1)
        (waited + backoffDelay r.config.backoffStrategy r.config.backoffMs (done + 1))) s := by
  unfold attempts
  refine (bind_eq_of_ok _ rfl).trans ?_
  rw [if_neg (by simp [h])]
  refine congrFun ?_ s
  unfold again
  simp only [bind_assoc]
  congr 1
  funext _
  congr 1
  funext _
  congr 1
  funext o
  cases hresult : o.result with
  | ok output => simp only [bind_assoc, pure_bind, afterAgain, hresult]
  | error f => simp only [bind_assoc, pure_bind, afterAgain, hresult]

section

variable {r : Retrying} {env : Env}

/-- A handler that is done is charged with its own time and with the waiting. -/
theorem steady_finish {ids : List String} (hbase : env.IsTimely → 0 ≤ r.base) (o : NodeOutcome)
    (waited retryCount : Nat) :
    Steady env ids (fun _ => r.finish o waited retryCount) (fun done => done.charged - waited) (fun _ => 0)
      fun done => done = { o with duration? := some (r.base + waited), retryCount } := by
  refine (steady_advance hbase).bind fun _ _ => steady_pure ?_ rfl rfl
  simp [NodeOutcome.charged]

variable (valid : env.Valid) (horigin : r.origin ∈ env.flow.nodes)

include valid horigin

/-- One more attempt is one retry, and what it leaves beside is the waiting. -/
theorem steady_again (number : Nat) (last : Failure) :
    Steady env [r.handler.id] (fun env => r.again env number last)
      (fun _ => backoffDelay r.config.backoffStrategy r.config.backoffMs number) fun _ => 1 := by
  have hplace : (Place.retried r.handler.id).owner ∈ [r.handler.id] := List.mem_singleton.2 rfl
  unfold again
  refine (steady_suspend fun _ => Int.natCast_nonneg _).bind fun _ _ => ?_
  refine (steady_publish rfl ⟨.inr (.inl rfl), rfl, rfl⟩ (by simp [Event.nodeRetry])).bind fun _ _ => ?_
  refine (charges_reinvoke valid horigin _).bind fun o _ => ?_
  have hrecord : Steady env [r.handler.id] (fun env => recordOutcome env r.origin o (.retried r.handler.id))
      (fun _ => -o.charged) fun _ => -o.retryCount := steady_recordOutcome fun _ => hplace
  cases o.result with
  | ok output =>
    refine (steady_store hplace output).bind fun _ _ => hrecord.bind fun _ _ => steady_pure ?_ ?_ trivial
    · simp
    · simp [Event.nodeRetry]
  | error f =>
    refine hrecord.bind fun _ _ => steady_pure ?_ ?_ trivial
    · simp
    · simp [Event.nodeRetry]

variable (hbase : env.IsTimely → 0 ≤ r.base)

include hbase

/-- However often a handler tries a node again, it is charged with the waiting, and counts the attempts. -/
theorem effect_attempts (remaining done waited : Nat) (last : Failure) {s s' : State} {o : NodeOutcome}
    (h : r.attempts env remaining done waited last s = .ok o s') :
    Effect env [r.handler.id] (o.charged - waited) (o.retryCount - done) s s' := by
  have hfinish (o' : NodeOutcome) (waited done : Nat) {s : State} (h : r.finish o' waited done s = .ok o s') :
      Effect env [r.handler.id] (o.charged - waited) (o.retryCount - done) s s' := by
    obtain ⟨heffect, rfl, -⟩ := steady_finish hbase o' waited done s o s' h
    exact heffect.congr rfl (sub_self _).symm
  induction remaining generalizing done waited last s with
  | zero => exact hfinish _ waited done h
  | succ remaining ih =>
    cases hcancelled : s.cancelled with
    | true =>
      rw [r.attempts_of_cancelled _ _ _ _ _ hcancelled] at h
      exact hfinish _ waited done h
    | false =>
      rw [r.attempts_of_not_cancelled _ _ _ _ _ hcancelled] at h
      obtain ⟨o', s₁, hagain, h⟩ := exists_of_bind_eq_ok h
      have hfirst := (steady_again valid horigin _ _).effect hagain
      cases hresult : o'.result with
      | ok output =>
        rw [afterAgain, hresult] at h
        exact (hfirst.trans (hfinish _ _ _ h)).congr (by push_cast; omega) (by push_cast; omega)
      | error f =>
        rw [afterAgain, hresult] at h
        exact (hfirst.trans (ih _ _ _ h)).congr (by push_cast; omega) (by push_cast; omega)

/-- A handler that finds the run cancelled has failed with attempts left. -/
theorem interruptible_attempts (remaining done waited : Nat) (last : Failure) :
    Interruptible env [r.handler.id] (fun env => r.attempts env remaining done waited last)
      (fun o => o.charged - waited) (fun o => o.retryCount - done)
      fun o s common => s.records = common ∧ o.failure? ≠ none ∧ o.retryCount < done + remaining := by
  have hfinish (o' : NodeOutcome) (waited done : Nat) :
      Steady env [r.handler.id] (fun _ => r.finish o' waited done) (fun o => o.charged - waited)
        (fun o => o.retryCount - done) :=
    (steady_finish hbase o' waited done).congr (fun _ _ => rfl) (by rintro _ rfl; exact (sub_self _).symm)
      fun _ _ => trivial
  induction remaining generalizing done waited last with
  | zero => exact (hfinish _ waited done).interruptible
  | succ remaining ih =>
    intro s o s' h
    cases hcancelled : s.cancelled with
    | true =>
      -- The handler gives up, while the run that is not cancelled goes on from the same records.
      refine ⟨effect_attempts valid horigin hbase _ _ _ _ h, .inr ?_⟩
      dsimp only at h
      rw [r.attempts_of_cancelled _ _ _ _ _ hcancelled] at h
      cases h
      refine ⟨hcancelled, s.records, ⟨rfl, nofun, ?_⟩, fun o₀ s₀ h₀ => ?_⟩
      · dsimp only
        omega
      · exact (effect_attempts valid.uncancelled horigin hbase _ _ _ _ h₀).isPrefix_records
    | false =>
      have hgoes : Interruptible env [r.handler.id] (fun env => r.again env (done + 1) last >>=
          r.afterAgain env remaining (done + 1)
            (waited + backoffDelay r.config.backoffStrategy r.config.backoffMs (done + 1)))
          (fun o => o.charged - waited) (fun o => o.retryCount - done)
          fun o s common => s.records = common ∧ o.failure? ≠ none ∧ o.retryCount < done + (remaining + 1) := by
        refine (steady_again valid horigin (done + 1) last).bind_interruptible fun o _ => ?_
        unfold afterAgain
        cases o.result with
        | ok product =>
          refine ((hfinish _ _ _).congr ?_ ?_ fun _ _ => trivial).interruptible
          · intro _ _
            push_cast
            omega
          · intro _ _
            push_cast
            omega
        | error f =>
          refine (ih (done + 1) _ f).congr ?_ ?_ ?_
          · intro _
            push_cast
            omega
          · intro _
            push_cast
            omega
          · rintro o s common ⟨hrecords, hfailed, hleft⟩
            exact ⟨hrecords, hfailed, by omega⟩
      dsimp only at h ⊢
      rw [r.attempts_of_not_cancelled _ _ _ _ _ hcancelled] at h
      rw [r.attempts_of_not_cancelled env.uncancelled _ _ _ _ (s := s.uncancelled) rfl]
      exact hgoes s o s' h

end

end Retrying

/-- A node was cut short: it has failed, as an error handler with attempts left, and has no records but those in
common. -/
structure GaveUp (env : Env) (n : Node) (o : NodeOutcome) (s : State) (common : List Record) : Prop where
  records : s.records = common
  failed : o.failure? ≠ none
  left : LeavesAttempts env.flow n o.retryCount

/-- From every state, a node is carried out that is charged with the time and the retries, and that gives what it would
have given without a cancellation unless it was cut short. -/
def InterruptiblyCharges (env : Env) (n : Node) (x : Env → Sim NodeOutcome) : Prop :=
  Interruptible env [n.id] x NodeOutcome.charged (fun o => o.retryCount) (GaveUp env n)

section

variable {env : Env} (valid : env.Valid) {n : Node} (hn : n ∈ env.flow.nodes)

theorem Charges.interruptibly {x : Env → Sim NodeOutcome} (h : Charges env [n.id] x) : InterruptiblyCharges env n x :=
  Steady.interruptible h

include valid hn

theorem interruptibly_retryOrigin (htype : n.type = Kind.errorHandler.name) {c : ErrorHandlerConfig}
    (hc : Kind.errorHandler.read n.data.config = .fits (.errorHandler c)) (f : Failure)
    (hstrategy : (strategyOf env.flow.config c).1 = Strategy.retry.name) :
    InterruptiblyCharges env n fun env' => retryOrigin env' n c f (strategyOf env.flow.config c).2 := by
  unfold retryOrigin
  refine (steady_durationOf valid hn).bind_interruptible fun base hbase => ?_
  have hgone : Interruptible env [n.id] (fun _ => pure (passOn f)) (fun o => o.charged - 0)
      (fun o => (o.retryCount : Int) - 0) (GaveUp env n) :=
    interruptible_pure rfl rfl
  have hflow : env.uncancelled.flow = env.flow := rfl
  cases horigin : env.flow.node? f.node with
  | none => exact hgone.of_eq (by rw [horigin]) (by rw [hflow, horigin])
  | some origin =>
    refine Interruptible.of_eq (y := fun env' => get >>= fun s =>
      if (s.invoked.lookup origin.id).isNone then pure (passOn f)
      else Retrying.attempts ⟨n, c, origin, base⟩ env' (strategyOf env.flow.config c).2 0 0 f) ?_ (by rw [horigin])
      (by rw [hflow, horigin])
    refine Interruptible.get_bind (fun _ => rfl) fun s => Interruptible.ite (fun _ => hgone) fun _ => ?_
    have hmem := (Flow.mem_of_node?_eq_some horigin).1
    refine (Retrying.interruptible_attempts (r := ⟨n, c, origin, base⟩) valid hmem hbase _ 0 0 f).congr ?_ ?_ ?_
    · exact fun _ => rfl
    · exact fun _ => rfl
    · rintro o s common ⟨hrecords, hfailed, hleft⟩
      exact ⟨hrecords, hfailed, htype, c, hc, hstrategy, by omega⟩

/-- Of all that an error handler does, only its attempts are cut short. -/
theorem interruptibly_handle (htype : n.type = Kind.errorHandler.name) {c : ErrorHandlerConfig}
    (hc : Kind.errorHandler.read n.data.config = .fits (.errorHandler c)) (b : Birth) (input : Cell)
    (incoming : Signal) : InterruptiblyCharges env n fun env' => handle env' n c b input incoming := by
  unfold handle
  cases incoming.failure? with
  | none => exact (charges_pure rfl rfl).interruptibly
  | some f =>
    refine Interruptible.of_eq (y := fun env' =>
      if (strategyOf env.flow.config c).1 == Strategy.fallback.name then
        pure { result := .ok ((settingCell n "fallbackValue" c.fallbackValue).copy b), exits := .only handledPort, absorbed := true }
      else if (strategyOf env.flow.config c).1 == Strategy.retry.name then
        retryOrigin env' n c f (strategyOf env.flow.config c).2
      else pure (passOn f)) ?_ rfl rfl
    refine Interruptible.ite (fun _ => (charges_pure rfl rfl).interruptibly) fun _ => ?_
    refine Interruptible.ite (fun hretry => ?_) fun _ => (charges_pure rfl rfl).interruptibly
    exact interruptibly_retryOrigin valid hn htype hc f (by simpa using hretry)

theorem InterruptiblyCharges.timed {x : Env → Sim NodeOutcome} (h : InterruptiblyCharges env n x) :
    InterruptiblyCharges env n fun env => x env >>= finishTiming env n := by
  refine Interruptible.bind h (fun o => ?_) ?_ fun o s o' s' hs => ?_
  · exact (steady_finishTiming valid hn o).congr (fun _ _ => rfl) (fun _ _ => rfl) fun _ _ => trivial
  · rintro o s common o' s' ⟨hrecords, hfailed, hleft⟩ hs
    obtain ⟨hledger, ms, rfl⟩ := (quiet_finishTiming env n o s).of_ok hs
    exact ⟨(congrArg Ledger.records hledger).trans hrecords, hfailed, hleft⟩
  · exact ((steady_finishTiming valid.uncancelled hn o).effect hs : Effect _ [n.id] _ _ _ _).isPrefix_records

/-- A node is carried out. -/
theorem interruptibly_invoke (incoming : Signal) : InterruptiblyCharges env n fun env => invoke env n incoming := by
  have hlift {x : Env → Sim NodeOutcome} (h : InterruptiblyCharges env n x) :
      Interruptible env [n.id] x (fun o => o.charged - 0 - 0) (fun o => (o.retryCount : Int) - 0 - 0) (GaveUp env n) :=
    Interruptible.congr h (by simp) (by simp) fun _ _ _ h => h
  unfold invoke
  refine (steady_read _).bind_interruptible fun input _ => (steady_semanticsOf valid hn).bind_interruptible ?_
  rintro _ ⟨c, rfl, hkind, hread⟩
  cases c with
  | errorHandler c => exact hlift ((interruptibly_handle valid hn hkind hread _ input incoming).timed valid hn)
  | ingress _ | transform _ | connector _ | serviceCall _ | condition _ | database _ | serviceBox _ =>
    exact hlift (((charges_work valid hn _ _ input).timed valid hn).interruptibly)

/-! ### Visits -/

/-- A node with an input is carried out. -/
theorem interruptibly_engage (input : Cell) (incoming : Signal) :
    InterruptiblyCharges env n fun env => engage env n input incoming := by
  unfold engage
  refine (steady_store (p := .input n.id) (List.mem_singleton.2 rfl) input).bind_interruptible fun _ _ => ?_
  have hinvoked : Steady env [n.id] (fun _ => modify fun s => { s with invoked := (n.id, incoming) :: s.invoked })
      (fun _ => 0) fun _ => 0 :=
    steady_modify (fun _ => Effect.of_eq rfl rfl rfl rfl id) fun _ => rfl
  refine hinvoked.bind_interruptible fun _ _ => ?_
  exact Interruptible.congr (interruptibly_invoke valid hn incoming) (by simp) (by simp) fun _ _ _ h => h

/-- A node takes its input and is carried out, or fails without one. -/
theorem interruptibly_engageFrom (t : NodeType) {live : List (Edge × Signal)}
    (hlive : ∀ x ∈ sourcesOf live, x.1 ∈ env.flow.edges) :
    InterruptiblyCharges env n fun env => engageFrom env n t live := by
  unfold engageFrom
  refine (steady_inputOf n t hlive).bind_interruptible fun input _ => ?_
  rcases input with (cause | m) | input
  · refine (steady_rawInput n _).bind_interruptible fun raw _ => ?_
    refine (steady_store (p := .input n.id) (List.mem_singleton.2 rfl) raw).bind_interruptible fun _ _ => ?_
    have hfailed : Charges env [n.id] fun _ => pure (.failed n.id cause) := charges_pure rfl rfl
    have hfailed := hfailed.timed valid hn
    exact (hfailed.congr (by simp) (by simp) fun _ _ => trivial).interruptible
  · exact (steady_throw (p := fun _ => True)).interruptible
  · exact Interruptible.congr (interruptibly_engage valid hn input _) (by simp) (by simp) fun _ _ _ h => h

/-- What is charged when a node is attended to: the time and the retries of its outcome, if it has one. -/
def chargedTo {α : Type} (charge : NodeOutcome → Int) (found : Option (NodeOutcome × α)) : Int :=
  (found.map fun x => charge x.1).getD 0

/-- A node that is attended to is carried out, or nothing is done. -/
theorem interruptible_attend :
    Interruptible env [n.id] (fun env => attend env n) (chargedTo NodeOutcome.charged)
      (chargedTo fun o => o.retryCount)
      fun found s common => ∃ o incoming, found = some (o, incoming) ∧ GaveUp env n o s common := by
  -- What is found is charged as its outcome is, and a visit that finds nothing is charged with nothing.
  have hsome {x : Env → Sim NodeOutcome} (hx : InterruptiblyCharges env n x) (incoming : Signal) :
      Interruptible env [n.id] (fun env => x env >>= fun o => pure (some (o, incoming)))
        (fun found => chargedTo NodeOutcome.charged found - 0) (fun found => chargedTo (fun o => o.retryCount) found - 0)
        fun found s common => ∃ o incoming, found = some (o, incoming) ∧ GaveUp env n o s common := by
    refine Interruptible.bind hx (fun o => ?_) ?_ ?_
    · exact steady_pure (by simp [chargedTo]) (by simp [chargedTo]) trivial
    · rintro o s common _ _ hgave hs
      cases hs
      exact ⟨o, incoming, rfl, hgave⟩
    · rintro o s _ _ hs
      cases hs
      exact List.prefix_rfl
  obtain ⟨k, -, hfind⟩ := valid.exists_kind hn
  have htype : Steady env [n.id] (fun env => typeOf env n) (fun _ => 0) fun _ => 0 :=
    steady_of_ok (typeOf_eq_ok hfind) (typeOf_eq_ok hfind) rfl rfl trivial
  unfold attend
  refine htype.bind_interruptible fun t _ => ?_
  refine Interruptible.ite (fun _ => ?_) fun _ => ?_
  · exact Interruptible.of_eq
      (y := fun env' => engage env' n (.ofValue (Place.input n.id).site env.input) _ >>= fun o => pure (some (o, _)))
      (hsome (interruptibly_engage valid hn _ _) _) rfl rfl
  · unfold attendInner
    refine Interruptible.get_bind (fun _ => rfl) fun s => ?_
    refine Interruptible.of_eq (y := fun env' => if (liveEdges env.flow s.signals n).isEmpty then pure none
      else engageFrom env' n t (liveEdges env.flow s.signals n) >>= fun o => pure (some (o, _))) ?_ rfl rfl
    refine Interruptible.ite (fun _ => ?_) fun _ => ?_
    · exact interruptible_pure rfl rfl
    · exact hsome (interruptibly_engageFrom valid hn t mem_edges_of_mem_sourcesOf) _

/-- A visit was cut short: of an error handler that has failed with attempts left. Its step is the only record that it
has on its own. -/
def BrokenOff (env : Env) (n : Node) (s : State) (common : List Record) : Prop :=
  ∃ own : Record, s.records = common ++ [own] ∧ own.node = n.id ∧ own.status = .error ∧
    LeavesAttempts env.flow n own.retryCount

/-- The visit of a node leaves no balance, and adds what it would have added without a cancellation unless it was cut
short. -/
theorem interruptible_visit :
    Interruptible env [n.id] (fun env => visit env n) (fun _ => 0) (fun _ => 0) fun _ => BrokenOff env n := by
  have hcomplete {env : Env} (found : Option (NodeOutcome × Signal)) : Steady env [n.id]
      (fun env => complete env n found) (fun _ => 0 - chargedTo NodeOutcome.charged found)
        fun _ => 0 - chargedTo (fun o => o.retryCount) found := by
    cases found with
    | none => exact steady_skip n
    | some x =>
      obtain ⟨o, incoming⟩ := x
      refine (steady_conclude (List.mem_singleton.2 rfl) o incoming).congr ?_ ?_ fun _ _ => trivial
      · simp [chargedTo]
      · simp [chargedTo]
  refine Interruptible.of_eq (Interruptible.bind (interruptible_attend valid hn) hcomplete ?_ ?_) (visit_eq env n)
    (visit_eq env.uncancelled n)
  · rintro _ s common _ s' ⟨o, incoming, rfl, rfl, hfailed, hleft⟩ hs
    obtain ⟨r, signals, emitted, htells, -, hledger⟩ := (meets_conclude valid hn o incoming s).of_ok hs
    refine ⟨r, congrArg Ledger.records hledger, htells.node, htells.status_of_failure hfailed, ?_⟩
    rw [htells.retryCount]
    exact hleft
  · exact fun found _ _ _ hs => ((hcomplete found).effect hs).isPrefix_records

end

end IntegrationFlow.Run
