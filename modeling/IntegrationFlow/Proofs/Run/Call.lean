import IntegrationFlow.Proofs.Run.Asks
import Mathlib.Algebra.BigOperators.Group.Finset.Basic
import Mathlib.Algebra.Ring.Nat
import Mathlib.Order.Bounds.Defs

/-!
# What comes of a call

Whether an attempt of a call fails, and whether it runs into the time limit, depends on its number among all attempts of
the node and on how long the node takes (`OutboundCall.Fails`, `OutboundCall.TimesOut`). A call without a breaker makes
its attempts up to the first that does neither, but no more than it may, and takes as long as they and the times between
them take together (`OutboundCall.exists_run_eq`). Its step says so (`MakesCall.settles_of_reinvoke`).
-/

namespace IntegrationFlow.Run

open Simulation Sim

/-! ### Attempts are counted -/

/-- The attempts with one more of a node. -/
def counted (node : String) (attempts : List (String × Nat)) : List (String × Nat) :=
  (node, (attempts.lookup node).getD 0 + 1) :: attempts.filter (·.1 != node)

/-- An attempt of a node is counted for that node. -/
theorem lookup_counted (node other : String) (attempts : List (String × Nat)) :
    ((counted node attempts).lookup other).getD 0 =
      (attempts.lookup other).getD 0 + if node = other then 1 else 0 := by
  unfold counted
  by_cases hother : node = other
  · subst hother
    simp
  · have hbeq : (other == node) = false := by simpa using Ne.symm hother
    rw [List.lookup_cons, hbeq, if_neg hother]
    dsimp only
    congr 1
    induction attempts with
    | nil => rfl
    | cons e es ih =>
      obtain ⟨key, count⟩ := e
      by_cases hkey : key = node
      · subst hkey
        simp [List.lookup_cons, hbeq, ih]
      · simp [List.lookup_cons, hkey, ih]

/-- How many attempts of a node were made. -/
def State.attemptsOf (s : State) (node : String) : Nat :=
  (s.attempts.lookup node).getD 0

theorem Calm.attempts_eq {α : Type} {x : Sim α} (h : Calm x) {s s' : State} {a : α} (hx : x s = .ok a s') :
    s'.attempts = s.attempts := by
  have hidle := h s
  unfold endState at hidle
  rw [hx] at hidle
  exact hidle.attempts

theorem Calm.attemptsOf_eq {α : Type} {x : Sim α} (h : Calm x) {s s' : State} {a : α} (hx : x s = .ok a s')
    (node : String) : s'.attemptsOf node = s.attemptsOf node := by
  unfold State.attemptsOf
  rw [h.attempts_eq hx]

theorem attemptsOf_of_counted {node : String} {s s' : State} (h : s'.attempts = counted node s.attempts)
    (other : String) : s'.attemptsOf other = s.attemptsOf other + if node = other then 1 else 0 := by
  unfold State.attemptsOf
  rw [h, lookup_counted]

/-! ### One attempt -/

namespace OutboundCall

section

variable (c : OutboundCall) (latency : Int) (number : Nat)

/-- The attempt with a number is to fail. -/
def Fails : Prop :=
  c.config.failureMode ≠ "none" ∧ ∀ limit, c.config.failAttempts = some limit → number ≤ limit

/-- The attempt with a number runs into the time limit: it takes too long, or it is to fail in this way. -/
def TimesOut : Prop :=
  (0 < c.config.timeout ∧ c.config.timeout < latency) ∨ (c.Fails number ∧ c.config.failureMode = "timeout")

/-- The attempt with a number is successful. -/
def Succeeds : Prop :=
  ¬ c.Fails number ∧ ¬ c.TimesOut latency number

theorem isFailing_iff : c.isFailing number = true ↔ c.Fails number := by
  unfold isFailing Fails
  cases c.config.failAttempts <;> simp

theorem timesOut_iff : c.timesOut (c.isFailing number) latency = true ↔ c.TimesOut latency number := by
  unfold timesOut TimesOut
  rw [Bool.or_eq_true, Bool.and_eq_true, Bool.and_eq_true, isFailing_iff, beq_iff_eq, decide_eq_true_eq,
    decide_eq_true_eq]
  exact or_comm

instance : Decidable (c.Fails number) :=
  decidable_of_iff _ (c.isFailing_iff number)

instance : Decidable (c.TimesOut latency number) :=
  decidable_of_iff _ (c.timesOut_iff latency number)

instance : Decidable (c.Succeeds latency number) :=
  inferInstanceAs (Decidable (_ ∧ _))

/-- How long the attempt with a number takes. The caller of one that runs into the time limit waits for as long as the
limit allows. -/
def cost : Int :=
  if c.TimesOut latency number then
    if c.config.timeout = 0 then latency else c.config.timeout
  else latency

/-- Why the attempt with a number fails, if it does. -/
def failureAt? : Option FailureCause :=
  if c.TimesOut latency number then some (.timedOut c.circuit (c.cost latency number))
  else if c.Fails number then some (.callFailed c.circuit)
  else none

theorem failureAt?_eq_none_iff : c.failureAt? latency number = none ↔ c.Succeeds latency number := by
  unfold failureAt? Succeeds
  by_cases htimesOut : c.TimesOut latency number <;> by_cases hfails : c.Fails number <;> simp [htimesOut, hfails]

theorem cost_of_timesOut {number : Nat} (h : c.TimesOut latency number) :
    c.cost latency number = c.waitingTime latency := by
  unfold cost waitingTime
  rw [if_pos h]
  by_cases htimeout : c.config.timeout = 0
  · simp [htimeout]
  · simp [htimeout, Nat.pos_of_ne_zero htimeout]

end

variable (c : OutboundCall) (env : Env)

/-- The breakers after a call has told its own, if it has one. -/
def changed (change : BreakerPolicy → Nat → Breaker → Breaker) (s : State) : Breakers :=
  if c.config.circuitBreaker then s.breakers.update c.circuit (change s.breakers.policy s.clock.now) else s.breakers

theorem updateBreaker_eq (change : BreakerPolicy → Nat → Breaker → Breaker) (s : State) :
    c.updateBreaker change s = .ok () { s with breakers := c.changed change s } := by
  unfold updateBreaker changed
  split <;> rfl

/-- A call without a breaker is always allowed. -/
theorem allowed_eq (s : State) : c.allowed s =
    .ok (!c.config.circuitBreaker || (s.breakers.get c.circuit).allows s.breakers.policy s.clock.now)
      { s with breakers := c.changed (fun policy now => Breaker.ask policy now) s } := by
  unfold allowed
  by_cases hbreaker : c.config.circuitBreaker = true
  · rw [if_pos hbreaker, hbreaker]
    refine (bind_eq_of_ok _ rfl).trans ((bind_eq_of_ok _ (c.updateBreaker_eq _ s)).trans ?_)
    rfl
  · rw [if_neg hbreaker]
    simp [changed, hbreaker]
    rfl

variable {c} in
theorem allowed_of_no_breaker (hbreaker : c.config.circuitBreaker = false) : c.allowed = pure true := by
  unfold allowed
  rw [if_neg (by simp [hbreaker])]

/-- A failure that is reported is told to the breaker; publishing it concerns no breaker. -/
theorem exists_reportFailure_eq (s : State) : ∃ s', c.reportFailure env s = .ok () s' ∧
    s'.breakers = c.changed (fun policy now => Breaker.fail policy now) s ∧ s'.clock = s.clock ∧
      s'.attempts = s.attempts := by
  have hopen (s : State) : ∃ b, c.isOpen s = .ok b s := ⟨_, rfl⟩
  let told : State := { s with breakers := c.changed (fun policy now => Breaker.fail policy now) s }
  obtain ⟨wasOpen, hwas⟩ := hopen s
  obtain ⟨isOpen, his⟩ := hopen told
  have hreport : c.reportFailure env s = (if !wasOpen && isOpen then
      publish env (.circuitOpened env.flow.id env.execution c.node.id c.circuit) else pure ()) told := by
    unfold reportFailure
    refine (bind_eq_of_ok _ hwas).trans ((bind_eq_of_ok _ (c.updateBreaker_eq _ s)).trans ?_)
    exact bind_eq_of_ok _ his
  rw [hreport]
  unfold publish
  split
  · split
    · exact ⟨_, rfl, rfl, rfl, rfl⟩
    · exact ⟨_, rfl, rfl, rfl, rfl⟩
  · exact ⟨_, rfl, rfl, rfl, rfl⟩

/-- An attempt takes its time, and at its end the breaker is told whether it has failed. -/
theorem exists_attempt_eq {latency : Int} (hlatency : env.engine.durations.ofNode c.node = .ok latency) (s : State) :
    ∃ s', c.attempt env s = .ok (c.cost latency (s.attemptsOf c.node.id + 1),
        c.failureAt? latency (s.attemptsOf c.node.id + 1)) s' ∧ s.clock.now ≤ s'.clock.now ∧
      s'.attempts = counted c.node.id s.attempts ∧ s'.breakers = c.changed (fun policy _ =>
        if (c.failureAt? latency (s.attemptsOf c.node.id + 1)).isSome then Breaker.fail policy s'.clock.now
        else Breaker.succeed) s := by
  have hduration (s : State) : durationOf env c.node s = .ok latency s := by
    unfold durationOf
    rw [hlatency]
    rfl
  have hsuspend (ms : Int) (s : State) : ∃ s', suspend env ms s = .ok () s' ∧ Idle s s' :=
    ⟨_, rfl, rfl, rfl, s.clock.now_le_advance ms⟩
  let s₀ : State := { s with attempts := counted c.node.id s.attempts }
  have hnext : nextAttempt c.node.id s = .ok (s.attemptsOf c.node.id + 1) s₀ := rfl
  unfold attempt
  rw [bind_eq_of_ok _ hnext, bind_eq_of_ok _ (hduration _)]
  generalize s.attemptsOf c.node.id + 1 = number
  -- A failure is reported at the end of the time that the attempt has taken.
  have hfail (ms : Int) (cause : FailureCause) : ∃ s', (do
      suspend env ms
      c.reportFailure env
      return (ms, some cause)) s₀ = .ok (ms, some cause) s' ∧ s.clock.now ≤ s'.clock.now ∧
        s'.attempts = counted c.node.id s.attempts ∧
          s'.breakers = c.changed (fun policy _ => Breaker.fail policy s'.clock.now) s := by
    obtain ⟨s₁, hs₁, hidle⟩ := hsuspend ms s₀
    obtain ⟨s', hs', htold, hclock, hattempts⟩ := c.exists_reportFailure_eq env s₁
    refine ⟨s', ?_, ?_, ?_, ?_⟩
    · rw [bind_eq_of_ok _ hs₁, bind_eq_of_ok _ hs']
      rfl
    · rw [hclock]
      exact hidle.clock
    · rw [hattempts, hidle.attempts]
    · rw [htold, hclock]
      unfold changed
      rw [hidle.breakers]
  dsimp only
  by_cases htimesOut : c.TimesOut latency number
  · have hfailure : c.failureAt? latency number = some (.timedOut c.circuit (c.waitingTime latency)) := by
      rw [failureAt?, if_pos htimesOut, c.cost_of_timesOut latency htimesOut]
    rw [if_pos ((c.timesOut_iff latency number).2 htimesOut), hfailure, c.cost_of_timesOut latency htimesOut]
    exact hfail _ _
  · have hcost : c.cost latency number = latency := if_neg htimesOut
    rw [if_neg (mt (c.timesOut_iff latency number).1 htimesOut), hcost]
    by_cases hfails : c.Fails number
    · have hfailure : c.failureAt? latency number = some (.callFailed c.circuit) := by
        rw [failureAt?, if_neg htimesOut, if_pos hfails]
      simp only [(c.isFailing_iff number).2 hfails, if_true, hfailure]
      exact hfail latency _
    · have hfailure : c.failureAt? latency number = none :=
        (c.failureAt?_eq_none_iff latency number).2 ⟨hfails, htimesOut⟩
      simp only [mt (c.isFailing_iff number).1 hfails, hfailure]
      obtain ⟨s₁, hs₁, hidle⟩ := hsuspend latency s₀
      refine ⟨{ s₁ with breakers := c.changed (fun _ _ => Breaker.succeed) s₁ }, ?_, hidle.clock, hidle.attempts, ?_⟩
      · rw [if_neg Bool.false_ne_true, bind_eq_of_ok _ hs₁]
        exact bind_eq_of_ok _ (c.updateBreaker_eq _ s₁)
      · unfold changed
        rw [hidle.breakers]
        rfl

end OutboundCall

/-! ### All attempts of a call -/

namespace OutboundCall

variable (c : OutboundCall) (env : Env) (latency : Int) (earlier : Nat)

/-- How long a call waits before so many retries together. -/
def waited (retries : Nat) : Nat :=
  ∑ k ∈ Finset.range retries, backoffDelay c.config.backoffStrategy c.config.backoffMs (k + 1)

/-- How long so many attempts take together, after others were made earlier. -/
def spent (attempts : Nat) : Int :=
  ∑ k ∈ Finset.range attempts, c.cost latency (earlier + k + 1)

/-- A waiting time that doubles from retry to retry adds up to the next one without the base time. -/
theorem waited_eq (retries : Nat) : c.waited retries =
    if c.config.backoffStrategy = "exponential" then c.config.backoffMs * (2 ^ retries - 1)
    else retries * c.config.backoffMs := by
  have hdelay (k : Nat) : backoffDelay c.config.backoffStrategy c.config.backoffMs (k + 1) =
      c.config.backoffMs * if c.config.backoffStrategy = "exponential" then 2 ^ k else 1 := by
    have hretry : ¬ ((k : Int) + 1 < 1) := by omega
    simp [backoffDelay, backoffFactor, hretry]
  unfold waited
  simp only [hdelay]
  split
  · induction retries with
    | zero => simp
    | succ retries ih =>
      have := Nat.one_le_two_pow (n := retries)
      rw [Finset.sum_range_succ, ih, ← Nat.mul_add, Nat.pow_succ]
      congr 1
      omega
  · rw [Nat.mul_one, Finset.sum_const, Finset.card_range, nsmul_eq_mul]
    rfl

/-- The waiting time before an attempt; there is none before the first. -/
theorem waited_pred_add (number : Nat) :
    c.waited (number - 1) + backoffDelay c.config.backoffStrategy c.config.backoffMs number = c.waited number := by
  cases number with
  | zero => simp [waited, backoffDelay, backoffFactor]
  | succ k => rw [Nat.add_sub_cancel, waited, waited, Finset.sum_range_succ]

/-- A call has made so many attempts, none of them with success. -/
structure Failing (number : Nat) (elapsed : Int) (last? : Option FailureCause) (s : State) : Prop where
  count : s.attemptsOf c.node.id = earlier + number
  failed : ∀ k < number, ¬ c.Succeeds latency (earlier + k + 1)
  elapsed : elapsed = c.spent latency earlier number + c.waited (number - 1)
  last : ∀ k, number = k + 1 → last? = c.failureAt? latency (earlier + k + 1)

/-- How a call ends: with the first attempt that is successful, or with the last one that it may make. -/
structure Ends (r : Report) : Prop where
  retryCount_le : r.retryCount ≤ c.config.retries
  failed : ∀ k < r.retryCount, ¬ c.Succeeds latency (earlier + k + 1)
  last : c.Succeeds latency (earlier + r.retryCount + 1) ∨ r.retryCount = c.config.retries
  elapsed : r.elapsed = c.spent latency earlier (r.retryCount + 1) + c.waited r.retryCount
  failure : r.failure? = c.failureAt? latency (earlier + r.retryCount + 1)

/-- Waiting before an attempt counts none. -/
theorem exists_beforeAttempt_eq (number : Nat) (last? : Option FailureCause) (s : State) :
    ∃ s', c.beforeAttempt env number last? s =
      .ok (backoffDelay c.config.backoffStrategy c.config.backoffMs number) s' ∧
        s'.attemptsOf c.node.id = s.attemptsOf c.node.id := by
  suffices h : ∃ s', c.beforeAttempt env number last? s =
      .ok (backoffDelay c.config.backoffStrategy c.config.backoffMs number) s' by
    obtain ⟨s', hbefore⟩ := h
    exact ⟨s', hbefore, (c.calm_beforeAttempt env number last?).attemptsOf_eq hbefore _⟩
  unfold beforeAttempt
  split
  · next hfirst =>
    subst hfirst
    exact ⟨s, rfl⟩
  · have hpublish (e : Event) (s : State) : ∃ s', publish env e s = .ok () s' := by
      unfold publish
      split <;> exact ⟨_, rfl⟩
    obtain ⟨s₁, hs₁⟩ : ∃ s₁, suspend env (backoffDelay c.config.backoffStrategy c.config.backoffMs number) s =
      .ok () s₁ := ⟨_, rfl⟩
    obtain ⟨s₂, hs₂⟩ := hpublish _ s₁
    exact ⟨s₂, (bind_eq_of_ok _ hs₁).trans (bind_eq_of_ok _ hs₂)⟩

variable {c env latency earlier} (hbreaker : c.config.circuitBreaker = false)
  (hlatency : env.engine.durations.ofNode c.node = .ok latency)

include hbreaker hlatency

/-- A call that has failed so far goes on to its end. -/
theorem Failing.exists_attempts_eq {remaining number : Nat} {elapsed : Int} {last? : Option FailureCause} {s : State}
    (h : c.Failing latency earlier number elapsed last? s) (hall : number + remaining = c.config.retries + 1) :
    ∃ r s', c.attempts env remaining number elapsed last? s = .ok r s' ∧ c.Ends latency earlier r ∧
      s'.attemptsOf c.node.id = earlier + r.retryCount + 1 := by
  -- On the attempts that are left: each either ends the call or leaves it failing with one attempt more.
  induction remaining generalizing number elapsed last? s with
  | zero =>
    obtain rfl : number = c.config.retries + 1 := hall
    have hends : c.Ends latency earlier ⟨elapsed, c.config.retries, last?⟩ :=
      ⟨le_rfl, fun k hk => h.failed k (Nat.lt_succ_of_lt hk), .inr rfl, h.elapsed, h.last _ rfl⟩
    exact ⟨_, s, rfl, hends, h.count⟩
  | succ remaining ih =>
    obtain ⟨s₁, hbefore, hkept⟩ := c.exists_beforeAttempt_eq env number last? s
    obtain ⟨s₂, hattempt, -, hcounted, -⟩ := c.exists_attempt_eq env hlatency s₁
    have hcount : s₂.attemptsOf c.node.id = earlier + (number + 1) := by
      rw [attemptsOf_of_counted hcounted, if_pos rfl, hkept, h.count, Nat.add_assoc]
    rw [hkept, h.count] at hattempt
    have helapsed : elapsed + backoffDelay c.config.backoffStrategy c.config.backoffMs number +
        c.cost latency (earlier + number + 1) = c.spent latency earlier (number + 1) + c.waited number := by
      rw [h.elapsed, ← c.waited_pred_add number, spent, spent, Finset.sum_range_succ]
      push_cast
      omega
    unfold attempts
    rw [bind_eq_of_ok _ hbefore, allowed_of_no_breaker hbreaker, pure_bind, if_pos rfl, bind_eq_of_ok _ hattempt]
    dsimp only
    cases hfailure : c.failureAt? latency (earlier + number + 1) with
    | none =>
      have hsucceeds := (c.failureAt?_eq_none_iff latency _).1 hfailure
      exact ⟨_, s₂, rfl, ⟨by dsimp only; omega, h.failed, .inl hsucceeds, helapsed, hfailure.symm⟩, hcount⟩
    | some cause =>
      have hfails : ¬ c.Succeeds latency (earlier + number + 1) := by
        rw [← failureAt?_eq_none_iff, hfailure]
        simp
      refine ih ⟨hcount, fun k hk => ?_, helapsed, fun k hk => ?_⟩ (by omega)
      · rcases Nat.lt_succ_iff_lt_or_eq.1 hk with hk | rfl
        · exact h.failed k hk
        · exact hfails
      · obtain rfl : number = k := Nat.succ.inj hk
        exact hfailure.symm

/-- A call without a breaker always comes to its end. -/
theorem exists_run_eq (s : State) : ∃ r s', c.run env s = .ok r s' ∧ c.Ends latency (s.attemptsOf c.node.id) r ∧
    s'.attemptsOf c.node.id = s.attemptsOf c.node.id + r.retryCount + 1 := by
  have hnone : c.Failing latency (s.attemptsOf c.node.id) 0 0 none s :=
    ⟨rfl, fun k hk => (Nat.not_lt_zero k hk).elim, by simp [spent, waited], fun k hk => nomatch hk⟩
  exact hnone.exists_attempts_eq hbreaker hlatency (Nat.zero_add _)

end OutboundCall

/-! ### Nodes that make calls -/

/-- The engine knows the type of a node as that of a built-in kind. -/
def Env.Knows (env : Env) (n : Node) : Prop :=
  ∃ k : Kind, n.type = k.name ∧ env.engine.registry.find? n.type = some k.nodeType

/-- A node makes a call when it is carried out. -/
def MakesCall (n : Node) (c : OutboundCall) : Prop :=
  ∃ config : Config, n.type = config.kind.name ∧ config.kind.read n.data.config = .fits config ∧
    callOf? n config = some c

section

variable {env : Env} {n : Node} {c : OutboundCall}

theorem MakesCall.node_eq (h : MakesCall n c) : c.node = n := by
  obtain ⟨config, -, -, hcall⟩ := h
  exact (of_callOf?_eq_some hcall).1

/-- A node makes one call only. -/
theorem MakesCall.unique {c' : OutboundCall} (h : MakesCall n c) (h' : MakesCall n c') : c = c' := by
  obtain ⟨config, htype, hread, hcall⟩ := h
  obtain ⟨config', htype', hread', hcall'⟩ := h'
  rw [← Kind.name_injective (htype.symm.trans htype'), hread] at hread'
  cases hread'
  exact Option.some.inj (hcall.symm.trans hcall')

/-- What a node does that makes a call, when the engine knows its type. -/
theorem MakesCall.exists_semanticsOf (h : MakesCall n c) (hknown : env.Knows n) :
    ∃ config, n.type = config.kind.name ∧ callOf? n config = some c ∧
      ∀ s, semanticsOf env n s = .ok (.builtin config) s := by
  obtain ⟨config, htype, hread, hcall⟩ := h
  obtain ⟨k, hname, hfind⟩ := hknown
  obtain rfl : config.kind = k := Kind.name_injective (htype.symm.trans hname)
  refine ⟨config, htype, hcall, fun s => ?_⟩
  unfold semanticsOf
  rw [bind_eq_of_ok _ (typeOf_eq_ok hfind s)]
  dsimp only [Kind.nodeType]
  rw [hread]
  rfl

end

/-! ### The step of a call -/

namespace OutboundCall

/-- What the step of a call says, when its node takes so long and so many attempts of the node were made earlier. -/
structure Settles (c : OutboundCall) (latency : Int) (earlier : Nat) (x : Step) : Prop where
  /-- The call succeeds if one of the attempts does that it may make. -/
  success_iff : x.status = .success ↔ ∃ k ≤ c.config.retries, c.Succeeds latency (earlier + k + 1)
  isLeast : x.status = .success →
    IsLeast {k | k ≤ c.config.retries ∧ c.Succeeds latency (earlier + k + 1)} x.retryCount
  exhausted : x.status ≠ .success → x.status = .error ∧ x.retryCount = c.config.retries
  duration : x.duration = c.spent latency earlier (x.retryCount + 1) + c.waited x.retryCount
  waiting : c.waited x.retryCount =
    if c.config.backoffStrategy = "exponential" then c.config.backoffMs * (2 ^ x.retryCount - 1)
    else x.retryCount * c.config.backoffMs
  /-- The failure is that of the last attempt. -/
  failure : x.error? = (c.failureAt? latency (earlier + x.retryCount + 1)).map (⟨·, c.node.id⟩)
  error_iff : x.error? = none ↔ x.status = .success
  /-- Only a connector shows what was answered. -/
  exchange : x.exchange?.isSome ↔ c.node.type = Kind.connector.name
  answered : ∀ e, x.exchange? = some e → x.status = .success →
    e.response = .ofFields [("status", .int 200), ("body", x.output)]
  refused : ∀ e f, x.exchange? = some e → x.error? = some f → e.response =
    .ofFields [("status", .int (if f.cause.kind = .timeout then 504 else 500)), ("error", .text f.cause.message)]

section

variable {c : OutboundCall} {env : Env} {latency : Int} {earlier : Nat}

/-- A call ends with success exactly if one of its attempts is successful. -/
theorem Ends.failure_eq_none_iff {r : Report} (h : c.Ends latency earlier r) :
    r.failure? = none ↔ ∃ k ≤ c.config.retries, c.Succeeds latency (earlier + k + 1) := by
  rw [h.failure, failureAt?_eq_none_iff]
  refine ⟨fun hsucceeds => ⟨_, h.retryCount_le, hsucceeds⟩, fun ⟨k, hk, hsucceeds⟩ => ?_⟩
  rcases h.last with hlast | hlast
  · exact hlast
  · rcases Nat.lt_or_eq_of_le (hlast ▸ hk) with hlt | rfl
    · exact (h.failed k hlt hsucceeds).elim
    · exact hsucceeds

/-- A failure of a call is a timeout or one of the service. -/
theorem responseStatus_of_failureAt? {number : Nat} {cause : FailureCause}
    (h : c.failureAt? latency number = some cause) :
    Record.responseStatus cause = if cause.kind = .timeout then 504 else 500 := by
  unfold failureAt? at h
  split at h
  · cases h
    rfl
  · split at h <;> cases h
    rfl

/-- What is recorded of a call says how it has ended. -/
theorem Ends.settles {r : Report} (h : c.Ends latency earlier r) {x : Record} {d : Documents}
    (hstatus : x.status = if r.failure?.isSome then .error else .success) (hcount : x.retryCount = r.retryCount)
    (hduration : x.duration = r.elapsed) (herror : x.error? = r.failure?.map (⟨·, c.node.id⟩))
    (hcalled : x.called?.isSome ↔ c.node.type = Kind.connector.name) : c.Settles latency earlier (x.toStep d) := by
  have hsuccess : x.status = .success ↔ r.failure? = none := by
    rw [hstatus]
    cases r.failure? <;> simp
  refine ⟨hsuccess.trans h.failure_eq_none_iff, fun hx => ?_, fun hx => ?_, ?_, c.waited_eq _, ?_, ?_, ?_,
    fun e he hx => ?_, fun e f he hf => ?_⟩
  · have hnone := hsuccess.1 hx
    rw [h.failure, failureAt?_eq_none_iff] at hnone
    change IsLeast _ x.retryCount
    rw [hcount]
    exact ⟨⟨h.retryCount_le, hnone⟩, fun k hk => not_lt.1 fun hlt => h.failed k hlt hk.2⟩
  · have hsome : r.failure? ≠ none := mt hsuccess.2 hx
    refine ⟨by rw [Record.toStep, hstatus, if_pos (Option.isSome_iff_ne_none.2 hsome)], hcount.trans ?_⟩
    rw [h.failure] at hsome
    exact h.last.resolve_left fun hlast => hsome ((c.failureAt?_eq_none_iff latency _).2 hlast)
  · change x.duration = _
    rw [hduration, h.elapsed, ← hcount]
    rfl
  · change x.error? = _
    rw [herror, h.failure, ← hcount]
    rfl
  · change x.error? = none ↔ _
    rw [herror, Option.map_eq_none_iff]
    exact hsuccess.symm
  · rw [← hcalled, Record.toStep, Option.isSome_map]
  · obtain ⟨called, -, rfl⟩ := Option.map_eq_some_iff.1 he
    have hnone : x.error? = none := by rw [herror, hsuccess.1 hx]; rfl
    unfold Record.exchange
    rw [hnone]
    rfl
  · obtain ⟨called, -, rfl⟩ := Option.map_eq_some_iff.1 he
    have hf : x.error? = some f := hf
    obtain ⟨cause, hcause, rfl⟩ := Option.map_eq_some_iff.1 (herror ▸ hf)
    unfold Record.exchange
    rw [hf, ← responseStatus_of_failureAt? (h.failure ▸ hcause)]

end

end OutboundCall

section

variable {env : Env} {n : Node} {c : OutboundCall}

/-- A node that makes a call does nothing else. Only a connector says what it has called. -/
theorem MakesCall.exists_reinvoke_eq (hcall : MakesCall n c) (hknown : env.Knows n) :
    ∃ (answer : Place → State → Cell) (called? : Option (Value × Value)),
      (called?.isSome ↔ n.type = Kind.connector.name) ∧
        ∀ p s, reinvoke env n p s = (c.outcome env (answer p s) called? >>= finishTiming env n) s := by
  obtain ⟨config, htype, hcall, hok⟩ := hcall.exists_semanticsOf hknown
  let input (s : State) : Cell := s.documents.read (.input n.id)
  have hreinvoke (p : Place) (s : State) : reinvoke env n p s =
      (work env n config ((input s).after p.site) (input s) >>= finishTiming env n) s := by
    unfold reinvoke
    refine (bind_eq_of_ok _ rfl).trans ?_
    dsimp only
    rw [bind_eq_of_ok _ (hok s)]
  cases config with
  | connector config =>
    cases hcall
    exact ⟨fun p s => connectorAnswer n config.outbound ((input s).after p.site) (input s), _, iff_of_true rfl htype,
      hreinvoke⟩
  | serviceCall config =>
    cases hcall
    refine ⟨fun p s => serviceAnswer n config.outbound ((input s).after p.site) (input s), none,
      iff_of_false nofun ?_, hreinvoke⟩
    rw [htype]
    exact fun hname => nomatch Kind.name_injective hname
  | _ => cases hcall

end

end IntegrationFlow.Run
