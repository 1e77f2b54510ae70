import IntegrationFlow.Proofs.Run.Call
import IntegrationFlow.Proofs.Simulation.Breaker

/-!
# Circuits are protected

What the attempts on a circuit have come to says whether the circuit has tripped (`trippedAt?`), without any breaker: it
has when as many attempts in a row have failed as the policy allows, or when it was open from the beginning and no
attempt was successful yet. The breaker of the circuit is open exactly then, whenever a call asks it, and an attempt is
made only when it is closed or the time of the policy has gone by since the circuit tripped (`guarded_of_run`).
-/

namespace IntegrationFlow.Run

open Simulation Sim

/-! ### Circuits -/

/-- An attempt that was made, and when. -/
structure Attempt where
  started : Nat
  ended : Nat
  failed : Bool

/-- How many attempts have failed since the last one that was successful. -/
def failuresInRow (xs : List Attempt) : Nat :=
  (xs.reverse.takeWhile (·.failed)).length

/-- The circuit has tripped and not recovered: it was open from the beginning, and all attempts have failed, or too many
have failed in a row. -/
def HasTripped (p : BreakerPolicy) (opened : Bool) (xs : List Attempt) : Prop :=
  (opened = true ∧ ∀ x ∈ xs, x.failed = true) ∨ p.threshold ≤ failuresInRow xs

instance (p : BreakerPolicy) (opened : Bool) (xs : List Attempt) : Decidable (HasTripped p opened xs) :=
  inferInstanceAs (Decidable (_ ∨ _))

/-- When the circuit has tripped last: at the end of the latest attempt, or at the beginning when there was none. -/
def trippedAt? (p : BreakerPolicy) (opened : Bool) (xs : List Attempt) : Option Nat :=
  if HasTripped p opened xs then some ((xs.getLast?.map (·.ended)).getD 0) else none

/-- What a breaker is like after some attempts on its circuit. -/
def Reflects (p : BreakerPolicy) (opened : Bool) (xs : List Attempt) (b : Breaker) : Prop :=
  match trippedAt? p opened xs with
  | some t => b.state = .opened ∧ b.openedAt = t
  | none => b.state = .closed ∧ b.failures = failuresInRow xs ∧ failuresInRow xs < p.threshold

section

variable {p : BreakerPolicy} {opened : Bool} {xs : List Attempt} {x : Attempt} {b : Breaker}

theorem failuresInRow_concat (xs : List Attempt) (x : Attempt) :
    failuresInRow (xs ++ [x]) = if x.failed then failuresInRow xs + 1 else 0 := by
  unfold failuresInRow
  rw [List.reverse_append, List.reverse_singleton, List.singleton_append, List.takeWhile_cons]
  split
  · rw [List.length_cons]
  · rfl

/-- A circuit that has tripped trips again with every failure, and no circuit trips with a success. -/
theorem hasTripped_concat (hthreshold : 1 ≤ p.threshold) : HasTripped p opened (xs ++ [x]) ↔
    x.failed = true ∧ (HasTripped p opened xs ∨ p.threshold ≤ (failuresInRow xs + 1 : Nat)) := by
  unfold HasTripped
  rw [failuresInRow_concat, List.forall_mem_append]
  cases hfailed : x.failed with
  | false =>
    simp only [List.forall_mem_singleton, hfailed]
    simp
    omega
  | true =>
    simp only [List.forall_mem_singleton, hfailed, if_true, and_true, true_and]
    constructor
    · rintro (h | h)
      · exact .inl (.inl h)
      · exact .inr h
    · rintro ((h | h) | h)
      · exact .inl h
      · exact .inr (by push_cast; omega)
      · exact .inr h

theorem reflects_of_hasTripped (h : HasTripped p opened xs) : Reflects p opened xs b ↔
    b.state = .opened ∧ b.openedAt = (xs.getLast?.map (·.ended)).getD 0 := by
  simp [Reflects, trippedAt?, h]

theorem reflects_of_not_hasTripped (h : ¬ HasTripped p opened xs) : Reflects p opened xs b ↔
    b.state = .closed ∧ b.failures = failuresInRow xs := by
  have hlow : failuresInRow xs < p.threshold := not_le.1 fun hthreshold => h (.inr hthreshold)
  simp [Reflects, trippedAt?, h, hlow]

/-- A breaker lets a call pass unless its circuit has tripped, and not long enough ago. -/
theorem Reflects.allows_iff (h : Reflects p opened xs b) (now : Int) :
    b.allows p now = true ↔ ∀ t, trippedAt? p opened xs = some t → p.resetTimeout ≤ now - t := by
  by_cases htripped : HasTripped p opened xs
  · obtain ⟨hopen, hat⟩ := (reflects_of_hasTripped htripped).1 h
    simp [Breaker.allows, hopen, hat, trippedAt?, htripped]
  · obtain ⟨hclosed, -⟩ := (reflects_of_not_hasTripped htripped).1 h
    simp [Breaker.allows, hclosed, trippedAt?, htripped]

/-- A breaker that has let an attempt pass is told that it has failed. -/
theorem Reflects.fail (h : Reflects p opened xs b) (hthreshold : 1 ≤ p.threshold) {now : Int}
    (hpass : b.allows p now = true) (hfailed : x.failed = true) :
    Reflects p opened (xs ++ [x]) ((b.ask p now).fail p x.ended) := by
  have hlast : ((xs ++ [x]).getLast?.map (·.ended)).getD 0 = x.ended := by simp
  by_cases htripped : HasTripped p opened xs
  · -- The attempt was a probe.
    obtain ⟨hopen, -⟩ := (reflects_of_hasTripped htripped).1 h
    rw [reflects_of_hasTripped ((hasTripped_concat hthreshold).2 ⟨hfailed, .inl htripped⟩), hlast]
    simp [Breaker.ask, hopen, hpass, Breaker.fail, Breaker.trip]
  · obtain ⟨hclosed, hcount⟩ := (reflects_of_not_hasTripped htripped).1 h
    have hask : b.ask p now = b := by simp [Breaker.ask, hclosed]
    rw [hask]
    by_cases hmany : p.threshold ≤ (failuresInRow xs + 1 : Nat)
    · rw [reflects_of_hasTripped ((hasTripped_concat hthreshold).2 ⟨hfailed, .inr hmany⟩), hlast]
      simp only [Breaker.fail, hcount, ge_iff_le, hmany, decide_true, Bool.or_true, if_true, Breaker.trip, and_self]
    · have hstays : ¬ HasTripped p opened (xs ++ [x]) := fun hconcat =>
        ((hasTripped_concat hthreshold).1 hconcat).2.elim htripped hmany
      have hfail : b.fail p x.ended = { b with failures := b.failures + 1 } := by
        rw [← hcount] at hmany
        refine if_neg ?_
        simp only [hclosed, Bool.or_eq_true, decide_eq_true_eq]
        rintro (h | h)
        · cases h
        · exact hmany h
      rw [reflects_of_not_hasTripped hstays, failuresInRow_concat, if_pos hfailed, hfail, ← hcount]
      exact ⟨hclosed, rfl⟩

/-- A breaker is told that an attempt was successful. -/
theorem Reflects.succeed (hthreshold : 1 ≤ p.threshold) (hsuccess : x.failed = false) :
    Reflects p opened (xs ++ [x]) b.succeed := by
  have hstays : ¬ HasTripped p opened (xs ++ [x]) := fun hconcat => by
    have := ((hasTripped_concat hthreshold).1 hconcat).1
    simp [hsuccess] at this
  rw [reflects_of_not_hasTripped hstays, failuresInRow_concat, hsuccess]
  exact ⟨rfl, rfl⟩

/-- Before any attempt, the breakers are open that are to be open from the beginning. -/
theorem reflects_start (hthreshold : 1 ≤ p.threshold) (openCircuits : List String) (name : String) :
    Reflects p (openCircuits.contains name) [] ((Breakers.start p openCircuits).get name) := by
  have hnone : ¬ p.threshold ≤ failuresInRow [] := by
    simp [failuresInRow]
    omega
  rw [Breakers.get_start]
  by_cases hopen : openCircuits.contains name = true
  · rw [if_pos hopen, reflects_of_hasTripped (.inl ⟨hopen, by simp⟩)]
    exact ⟨rfl, rfl⟩
  · rw [if_neg hopen, reflects_of_not_hasTripped fun h => h.elim (fun h => hopen h.1) hnone]
    exact ⟨rfl, rfl⟩

end

/-! ### Asks -/

namespace Ask

/-- The breaker that is asked. -/
def breaker (a : Ask) : Breaker :=
  a.state.breakers.get a.call.circuit

/-- The answer is that the attempt may be made. -/
def passes (a : Ask) : Bool :=
  match a.call.allowed a.state with
  | .ok b _ => b
  | .error _ _ => false

/-- The attempt that is made upon an ask. -/
def attempt? (env : Env) (a : Ask) : Option Attempt :=
  match a.call.tried env a.state with
  | .ok (some (_, failure?)) s => some ⟨a.state.clock.now, s.clock.now, failure?.isSome⟩
  | _ => none

end Ask

/-- The attempts on a circuit: those of the calls that use its breaker. -/
def attemptsOn (env : Env) (circuit : String) (asks : List Ask) : List Attempt :=
  asks.filterMap fun a => if a.call.config.circuitBreaker ∧ a.call.circuit = circuit then a.attempt? env else none

namespace Ask

variable {env : Env} {a : Ask}

theorem passes_eq (a : Ask) :
    a.passes = (!a.call.config.circuitBreaker || a.breaker.allows a.state.breakers.policy a.state.clock.now) := by
  unfold passes
  rw [OutboundCall.allowed_eq]
  rfl

private theorem tried_eq (env : Env) (a : Ask) : a.call.tried env a.state =
    (if a.passes then (do return some (← a.call.attempt env)) else return none : Sim _)
      { a.state with breakers := a.call.changed (fun policy now => Breaker.ask policy now) a.state } := by
  unfold OutboundCall.tried
  rw [bind_eq_of_ok _ (a.call.allowed_eq a.state), passes_eq]
  rfl

/-- When a breaker refuses an attempt, none is made and all breakers stay as they are. -/
theorem of_refused (h : a.passes = false) : a.attempt? env = none ∧ (a.after env).attempts = a.state.attempts ∧
    (a.after env).breakers.policy = a.state.breakers.policy ∧
      ∀ name, (a.after env).breakers.get name = a.state.breakers.get name := by
  have htried := tried_eq env a
  rw [h] at htried
  rw [passes_eq, Bool.or_eq_false_iff, Bool.not_eq_false'] at h
  obtain ⟨hbreaker, hrefused⟩ := h
  let asked := a.state.breakers.update a.call.circuit (Breaker.ask a.state.breakers.policy a.state.clock.now)
  have hafter : a.after env = { a.state with breakers := asked } := by
    unfold after endState
    rw [htried]
    unfold OutboundCall.changed
    rw [if_pos hbreaker]
    rfl
  refine ⟨?_, by rw [hafter], by rw [hafter]; rfl, fun name => ?_⟩
  · unfold attempt?
    rw [htried]
    rfl
  · rw [hafter, Breakers.get_update]
    split
    · next hname =>
      rw [hname]
      have hask : a.breaker.ask a.state.breakers.policy a.state.clock.now = a.breaker := by
        simp [Breaker.ask, hrefused]
      exact hask
    · rfl

/-- When a breaker lets an attempt pass, the attempt is made, and the breaker is told of its end. -/
theorem of_passes {ms : Int} (hms : env.engine.durations.ofNode a.call.node = .ok ms) (h : a.passes = true) :
    ∃ x, a.attempt? env = some x ∧ x.started = a.state.clock.now ∧ x.started ≤ x.ended ∧
      (a.after env).attempts = counted a.call.node.id a.state.attempts ∧
        (a.after env).breakers.policy = a.state.breakers.policy ∧
        ∀ name, (a.after env).breakers.get name =
          if a.call.config.circuitBreaker = true ∧ a.call.circuit = name then
            let asked := a.breaker.ask a.state.breakers.policy a.state.clock.now
            if x.failed then asked.fail a.state.breakers.policy x.ended else asked.succeed
          else a.state.breakers.get name := by
  have htried := tried_eq env a
  rw [h, if_pos rfl] at htried
  obtain ⟨s', hattempt, hlater, hcounted, hbreakers⟩ := a.call.exists_attempt_eq env hms
    { a.state with breakers := a.call.changed (fun policy now => Breaker.ask policy now) a.state }
  rw [bind_eq_of_ok _ hattempt] at htried
  have hafter : a.after env = s' := by
    unfold after endState
    rw [htried]
    rfl
  -- The call counts as one attempt whatever comes of it, and only its own breaker is told.
  let failure? := a.call.failureAt? ms (a.state.attemptsOf a.call.node.id + 1)
  refine ⟨⟨a.state.clock.now, s'.clock.now, failure?.isSome⟩, ?_, rfl, hlater, ?_, ?_⟩
  · unfold attempt?
    rw [htried]
    rfl
  · rw [hafter, hcounted]
  · rw [hafter, hbreakers]
    unfold OutboundCall.changed
    by_cases hbreaker : a.call.config.circuitBreaker = true
    · simp only [hbreaker, if_true, true_and]
      refine ⟨rfl, fun name => ?_⟩
      rw [Breakers.get_update, Breakers.get_update, Breakers.get_update]
      by_cases hname : name = a.call.circuit
      · subst hname
        simp only [if_true, ite_apply]
        rfl
      · rw [if_neg hname, if_neg hname, if_neg (Ne.symm hname)]
    · simp only [hbreaker]
      simp

end Ask

/-! ### Breakers along a run -/

/-- After some asks, every breaker is what the attempts on its circuit have made of it. -/
structure Guards (env : Env) (openCircuits : List String) (past : List Ask) (s : State) : Prop where
  policy : s.breakers.policy = env.engine.policy
  reflects : ∀ circuit, Reflects env.engine.policy (openCircuits.contains circuit) (attemptsOn env circuit past)
    (s.breakers.get circuit)
  /-- All attempts of the nodes were made upon asks. -/
  counts : ∀ id, (s.attempts.lookup id).getD 0 = past.countP fun a => a.passes && a.call.node.id == id

section

variable {env : Env} {openCircuits : List String} {past later : List Ask} {a : Ask} {s s' : State}

theorem Guards.of_idle (h : Guards env openCircuits past s) (hidle : Idle s s') : Guards env openCircuits past s' := by
  refine ⟨?_, fun circuit => ?_, fun id => ?_⟩
  · rw [hidle.breakers]
    exact h.policy
  · rw [hidle.breakers]
    exact h.reflects circuit
  · rw [hidle.attempts]
    exact h.counts id

theorem attemptsOn_concat (circuit : String) (past : List Ask) (a : Ask) :
    attemptsOn env circuit (past ++ [a]) = attemptsOn env circuit past ++
      if a.call.config.circuitBreaker ∧ a.call.circuit = circuit then (a.attempt? env).toList else [] := by
  unfold attemptsOn
  rw [List.filterMap_append]
  congr 1
  by_cases hsame : a.call.config.circuitBreaker = true ∧ a.call.circuit = circuit
  · cases hattempt : a.attempt? env <;> simp [hsame, hattempt]
  · simp [hsame]

/-- One more ask keeps the breakers in step with the attempts. -/
theorem Guards.ask (hthreshold : 1 ≤ env.engine.policy.threshold) {ms : Int}
    (hms : env.engine.durations.ofNode a.call.node = .ok ms) (h : Guards env openCircuits past a.state) :
    Guards env openCircuits (past ++ [a]) (a.after env) := by
  cases hpasses : a.passes with
  | false =>
    obtain ⟨hnone, hattempts, hpolicy, hget⟩ := Ask.of_refused hpasses
    refine ⟨hpolicy.trans h.policy, fun circuit => ?_, fun id => ?_⟩
    · rw [hget, attemptsOn_concat, hnone]
      simpa using h.reflects circuit
    · rw [hattempts, h.counts, List.countP_append]
      simp [hpasses]
  | true =>
    obtain ⟨x, hx, -, -, hattempts, hpolicy, hget⟩ := Ask.of_passes hms hpasses
    refine ⟨hpolicy.trans h.policy, fun circuit => ?_, fun id => ?_⟩
    · rw [hget, attemptsOn_concat, hx]
      by_cases hsame : a.call.config.circuitBreaker = true ∧ a.call.circuit = circuit
      · rw [if_pos hsame, if_pos hsame]
        obtain ⟨hbreaker, rfl⟩ := hsame
        have hreflects := h.reflects a.call.circuit
        have hallows : a.breaker.allows env.engine.policy a.state.clock.now = true := by
          rw [Ask.passes_eq, hbreaker, h.policy] at hpasses
          exact hpasses
        -- The breaker was asked and let the call through, so it is told of one attempt more.
        dsimp only [Option.toList_some]
        rw [h.policy]
        cases hfailed : x.failed with
        | true => exact hreflects.fail hthreshold hallows hfailed
        | false => exact Reflects.succeed hthreshold hfailed
      · rw [if_neg hsame, if_neg hsame, List.append_nil]
        exact h.reflects circuit
    · rw [hattempts, lookup_counted, h.counts, List.countP_append]
      simp [hpasses]

/-- The breakers keep in step with the attempts all the way. -/
theorem Guards.through (hthreshold : 1 ≤ env.engine.policy.threshold)
    (hlater : ∀ a ∈ later, ∃ ms, env.engine.durations.ofNode a.call.node = .ok ms)
    (h : Guards env openCircuits past s) (hway : Through env s later s') :
    Guards env openCircuits (past ++ later) s' := by
  induction hway generalizing past with
  | idle hidle =>
    rw [List.append_nil]
    exact h.of_idle hidle
  | @ask s s' a later hidle _ ih =>
    obtain ⟨ms, hms⟩ := hlater a List.mem_cons_self
    rw [List.append_cons]
    exact ih (fun b hb => hlater b (List.mem_cons_of_mem _ hb)) ((h.of_idle hidle).ask hthreshold hms)

end

/-- What holds whenever a call asks the breaker of its circuit, after other asks of the run. -/
structure Guarded (env : Env) (openCircuits : List String) (past : List Ask) (a : Ask) : Prop where
  /-- The breaker is open when the circuit has tripped, and else closed with the failures in a row, which are too few to
  open it; it is never half open. -/
  state : Reflects env.engine.policy (openCircuits.contains a.call.circuit) (attemptsOn env a.call.circuit past) a.breaker
  /-- An attempt may be made unless the circuit has tripped, and not so long ago as the policy asks for. -/
  passes : a.passes = true ↔ ∀ t, trippedAt? env.engine.policy (openCircuits.contains a.call.circuit)
    (attemptsOn env a.call.circuit past) = some t → env.engine.policy.resetTimeout ≤ (a.state.clock.now : Int) - t
  /-- Else none is made, and nothing happens to the breaker. -/
  refused : a.passes = false → a.attempt? env = none ∧ (a.after env).breakers.get a.call.circuit = a.breaker
  /-- The attempt begins at once, and with its end the breaker knows what has become of it: it opens when a probe has
  failed or too many attempts in a row have, it closes when the attempt was successful. -/
  made : a.passes = true → ∃ x, a.attempt? env = some x ∧ x.started = a.state.clock.now ∧ x.started ≤ x.ended ∧
    Reflects env.engine.policy (openCircuits.contains a.call.circuit) (attemptsOn env a.call.circuit past ++ [x])
      ((a.after env).breakers.get a.call.circuit)

section

variable {env : Env} {openCircuits : List String} {past : List Ask} {a : Ask}

/-- A breaker that is in step with the attempts spares its circuit. -/
theorem Guards.guarded (hthreshold : 1 ≤ env.engine.policy.threshold) {ms : Int}
    (hms : env.engine.durations.ofNode a.call.node = .ok ms) (hbreaker : a.call.config.circuitBreaker = true)
    (h : Guards env openCircuits past a.state) : Guarded env openCircuits past a := by
  have hreflects := h.reflects a.call.circuit
  have hpasses : a.passes = a.breaker.allows env.engine.policy a.state.clock.now := by
    rw [Ask.passes_eq, hbreaker, h.policy]
    rfl
  refine ⟨hreflects, ?_, fun hrefused => ?_, fun hpass => ?_⟩
  · rw [hpasses]
    exact hreflects.allows_iff _
  · obtain ⟨hnone, -, -, hget⟩ := Ask.of_refused hrefused
    exact ⟨hnone, hget _⟩
  · obtain ⟨x, hx, hstarted, hended, -⟩ := Ask.of_passes hms hpass
    have hafter := (h.ask hthreshold hms).reflects a.call.circuit
    rw [attemptsOn_concat, hx, if_pos ⟨hbreaker, rfl⟩] at hafter
    exact ⟨x, hx, hstarted, hended, hafter⟩

theorem guards_initialState (hthreshold : 1 ≤ env.engine.policy.threshold) (openCircuits : List String) :
    Guards env openCircuits [] (initialState env openCircuits) :=
  ⟨Breakers.policy_start _ openCircuits, reflects_start hthreshold openCircuits, fun _ => rfl⟩

/-- How long the node of a call takes can be told. -/
theorem exists_latency_of_mem_asksOf (valid : env.Valid) (h : a ∈ asksOf env openCircuits) :
    ∃ ms, env.engine.durations.ofNode a.call.node = .ok ms := by
  obtain ⟨n, hn, config, -, hcall⟩ := exists_isOf_of_mem_asksOf valid h
  obtain ⟨c, -, hread, -⟩ := valid.exists_semanticsOf hn
  obtain ⟨ms, hms, -⟩ := env.engine.durations.exists_ofNode_eq_ok hread
  exact ⟨ms, (of_callOf?_eq_some hcall).1 ▸ hms⟩

/-- Only an attempt on a circuit that has tripped is refused. -/
theorem Guarded.hasTripped (h : Guarded env openCircuits past a) (hrefused : a.passes = false) :
    HasTripped env.engine.policy (openCircuits.contains a.call.circuit) (attemptsOn env a.call.circuit past) := by
  by_contra htripped
  have hnone : trippedAt? env.engine.policy (openCircuits.contains a.call.circuit)
      (attemptsOn env a.call.circuit past) = none := if_neg htripped
  have hpasses := h.passes.2 fun t ht => by
    rw [hnone] at ht
    cases ht
  rw [hrefused] at hpasses
  cases hpasses

/-- Along a run of a valid flow, all circuits are spared. -/
theorem guarded_of_asksOf (valid : env.Valid) (hthreshold : 1 ≤ env.engine.policy.threshold) {later : List Ask}
    (hasks : asksOf env openCircuits = past ++ a :: later) (hbreaker : a.call.config.circuitBreaker = true) :
    Guarded env openCircuits past a := by
  have hlatency (b : Ask) (hb : b ∈ past ++ a :: later) : ∃ ms, env.engine.durations.ofNode b.call.node = .ok ms :=
    exists_latency_of_mem_asksOf valid (hasks ▸ hb)
  obtain ⟨s, hpast, hidle⟩ := exists_through_of_asksOf hasks
  have hs := (guards_initialState hthreshold openCircuits).through hthreshold
    (fun b hb => hlatency b (List.mem_append_left _ hb)) hpast
  obtain ⟨ms, hms⟩ := hlatency a (List.mem_append_right _ List.mem_cons_self)
  exact (hs.of_idle hidle).guarded hthreshold hms hbreaker

end

/-- In every run of a valid flow, whoever asks a breaker finds it closed or open as the attempts on its circuit have made
it, and makes no attempt while the circuit is to be spared. No attempt is made without asking. -/
theorem guarded_of_run {engine : Engine} {f : Flow} {r : Request} {report : Report}
    (hbuiltin : engine.registry = .builtin) (hthreshold : 1 ≤ engine.policy.threshold)
    (hrun : engine.run f r = .ok report) :
    (∀ past a later, asksOf (r.env engine f) r.openCircuits = past ++ a :: later →
      a.call.config.circuitBreaker = true → Guarded (r.env engine f) r.openCircuits past a) ∧
    ∀ id, ((endState (simulate (r.env engine f)) (initialState (r.env engine f) r.openCircuits)).attempts.lookup id).getD 0
      = (asksOf (r.env engine f) r.openCircuits).countP fun a => a.passes && a.call.node.id == id := by
  obtain ⟨hvalid, rfl⟩ := Engine.run_eq_ok_iff.1 hrun
  have valid : (r.env engine f).Valid := ⟨hbuiltin, hvalid⟩
  refine ⟨fun past a later hasks hbreaker => guarded_of_asksOf valid hthreshold hasks hbreaker, ?_⟩
  have hend := (guards_initialState hthreshold r.openCircuits).through hthreshold
    (fun a ha => exists_latency_of_mem_asksOf valid ha) (through_simulate (r.env engine f) r.openCircuits)
  exact hend.counts

/-- A call that always fails, with retries. -/
def stubbornCall : Flow where
  id := "stubborn"
  name := "Stubborn call"
  nodes := [Kind.ingress.node "start" [],
    Kind.connector.node "call" [("connectorId", .text "api"), ("endpointId", .text "call"),
      ("failureMode", .text "error"), ("retries", .int 5)]]
  edges := [{ id := "1", source := "start", target := "call" }]
  createdAt := default
  updatedAt := default

/-- Breakers open after two failures. -/
def wary : Engine where
  policy := { threshold := 2 }

/-- A run of the stubborn call. -/
def stubbornRun : Request where
  input := .object []
  execution := "run"

/-- The stubborn call fails twice. Then its circuit has tripped, and it makes no further attempt. -/
theorem guarded_of_stubbornRun : ∃ report past a, wary.run stubbornCall stubbornRun = .ok report ∧
    asksOf (stubbornRun.env wary stubbornCall) [] = past ++ [a] ∧ past.map Ask.passes = [true, true] ∧
      a.passes = false ∧ Guarded (stubbornRun.env wary stubbornCall) [] past a := by
  have hrun : wary.run stubbornCall stubbornRun = .ok (execute (stubbornRun.env wary stubbornCall) []) :=
    Engine.run_eq_ok_iff.2 ⟨by decide, rfl⟩
  have hpasses : (asksOf (stubbornRun.env wary stubbornCall) []).map Ask.passes = [true, true] ++ [false] := by
    decide +kernel
  have hbreakers : ∀ a ∈ asksOf (stubbornRun.env wary stubbornCall) [], a.call.config.circuitBreaker = true := by
    decide +kernel
  obtain ⟨past, last, hasks, hpast, hlast⟩ := List.map_eq_append_iff.1 hpasses
  obtain ⟨a, rfl, ha⟩ := List.map_eq_singleton_iff.1 hlast
  have hguarded := (guarded_of_run rfl (by decide) hrun).1 past a [] hasks
    (hbreakers a (hasks ▸ List.mem_append_right _ (List.mem_singleton_self a)))
  exact ⟨_, past, a, hrun, hasks, hpast, ha, hguarded⟩

end IntegrationFlow.Run
