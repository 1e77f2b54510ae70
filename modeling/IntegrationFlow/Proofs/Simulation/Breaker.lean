import IntegrationFlow.Simulation.Breaker
import Mathlib.Data.List.Induction
import Mathlib.Data.List.TakeWhile

/-!
# What breakers remember

Whatever is asked of the breakers and told to them, in any order and at any times, a breaker depends on the calls of its
own name only (`Breakers.get_after`), and it keeps the `Accounts` of these calls: how many failures there were since the
last success, and when it was tripped last. So a closed breaker is always below its threshold, and an open one refuses
calls from the last time on at which it was tripped (`Breakers.accounts_of_calls`).
-/

namespace IntegrationFlow.Simulation

namespace Breaker

/-! ### What the calls of a breaker come to -/

/-- The call records a failure. -/
def Call.isFailure : Call → Bool
  | .failure _ => true
  | _ => false

/-- How many failures were recorded since the last success. -/
def failuresSince (calls : List Call) : Nat :=
  (calls.reverse.takeWhile (· != .success)).countP (·.isFailure)

/-- The next failure of a breaker is one too many: that of a probe, or the one that reaches the threshold. -/
def IsLast (p : BreakerPolicy) (b : Breaker) : Prop :=
  b.state = .halfOpen ∨ p.threshold ≤ b.failures + 1

instance (p : BreakerPolicy) (b : Breaker) : Decidable (b.IsLast p) :=
  inferInstanceAs (Decidable (_ ∨ _))

/-- The time at which a call trips a breaker. A failure does so only when it is one too many. -/
def tripTime? (p : BreakerPolicy) (b : Breaker) : Call → Option Int
  | .trip now => some now
  | .failure now => if b.IsLast p then some now else none
  | _ => none

/-- The times at which a breaker is tripped, in the order of the calls. -/
def tripTimes (p : BreakerPolicy) : Breaker → List Call → List Int
  | _, [] => []
  | b, c :: cs => (b.tripTime? p c).toList ++ tripTimes p (b.after p c) cs

/-- What a breaker knows of the calls that were made to it. -/
structure Accounts (p : BreakerPolicy) (calls : List Call) (b : Breaker) : Prop where
  failures : b.failures = failuresSince calls
  closed : b.state = .closed → b.failures < p.threshold
  opened : b.state = .opened → (tripTimes p {} calls).getLast? = some b.openedAt

section

variable {p : BreakerPolicy} {b : Breaker} {calls : List Call} {c : Call} {now : Int}

theorem failuresSince_concat (calls : List Call) (c : Call) :
    failuresSince (calls ++ [c]) = if c = .success then 0 else failuresSince calls + if c.isFailure then 1 else 0 := by
  unfold failuresSince
  rw [List.reverse_append, List.reverse_singleton, List.singleton_append, List.takeWhile_cons]
  by_cases hsuccess : c = .success
  · simp [hsuccess]
  · simp [hsuccess, List.countP_cons]

theorem tripTimes_concat (b : Breaker) (calls : List Call) (c : Call) :
    tripTimes p b (calls ++ [c]) = tripTimes p b calls ++ ((calls.foldl (after p) b).tripTime? p c).toList := by
  induction calls generalizing b with
  | nil => simp [tripTimes]
  | cons d calls ih => rw [List.cons_append, tripTimes, ih, tripTimes, List.append_assoc, List.foldl_cons]

/-- A failure that trips a breaker is counted, and opens it. -/
theorem fail_of_isLast (h : b.IsLast p) : b.fail p now = ⟨.opened, b.failures + 1, now⟩ := by
  unfold fail
  refine if_pos ?_
  rw [Bool.or_eq_true, beq_iff_eq, decide_eq_true_eq]
  exact_mod_cast h

/-- A failure that does not trip a breaker is only counted. -/
theorem fail_of_not_isLast (h : ¬ b.IsLast p) : b.fail p now = { b with failures := b.failures + 1 } := by
  unfold fail
  refine if_neg ?_
  rw [Bool.or_eq_true, beq_iff_eq, decide_eq_true_eq]
  exact_mod_cast h

/-- Asking a breaker opens none, and closes none. -/
theorem ask_eq (p : BreakerPolicy) (now : Int) (b : Breaker) :
    b.ask p now = b ∨
      b.state = .opened ∧ p.resetTimeout ≤ now - b.openedAt ∧ b.ask p now = { b with state := .halfOpen } := by
  unfold ask
  split
  · next h =>
    obtain ⟨hopen, hallows⟩ : b.state = .opened ∧ b.allows p now = true := by simpa using h
    refine .inr ⟨hopen, ?_, rfl⟩
    simpa [allows, hopen] using hallows
  · exact .inl rfl

/-- A breaker without any calls keeps the accounts when its policy allows a failure. -/
theorem accounts_nil (hthreshold : 1 ≤ p.threshold) : Accounts p [] {} where
  failures := rfl
  closed _ := Int.lt_of_lt_of_le Int.zero_lt_one hthreshold
  opened := CircuitState.noConfusion

/-- Every call keeps the accounts. -/
theorem Accounts.after (hthreshold : 1 ≤ p.threshold) (h : Accounts p calls b) (hb : calls.foldl (Breaker.after p) {} = b)
    (c : Call) : Accounts p (calls ++ [c]) (b.after p c) := by
  have hfailures := failuresSince_concat calls c
  have htimes : tripTimes p {} (calls ++ [c]) = tripTimes p {} calls ++ (b.tripTime? p c).toList := by
    rw [tripTimes_concat, hb]
  rw [← h.failures] at hfailures
  cases c with
  | allow now =>
    have hsame : tripTimes p {} (calls ++ [.allow now]) = tripTimes p {} calls := by rw [htimes]; exact List.append_nil _
    rw [after_allow]
    rcases ask_eq p now b with hask | ⟨-, -, hask⟩
    · rw [hask]
      exact ⟨hfailures.symm, h.closed, hsame ▸ h.opened⟩
    · rw [hask]
      exact ⟨hfailures.symm, CircuitState.noConfusion, CircuitState.noConfusion⟩
  | success =>
    rw [after_success]
    exact ⟨hfailures.symm, fun _ => Int.lt_of_lt_of_le Int.zero_lt_one hthreshold, CircuitState.noConfusion⟩
  | failure now =>
    rw [after_failure]
    by_cases hlast : b.IsLast p
    · have htrips : b.tripTime? p (.failure now) = some now := if_pos hlast
      rw [fail_of_isLast hlast]
      refine ⟨hfailures.symm, CircuitState.noConfusion, fun _ => ?_⟩
      rw [htimes, htrips]
      exact List.getLast?_concat
    · have hsame : tripTimes p {} (calls ++ [.failure now]) = tripTimes p {} calls := by
        rw [htimes, show b.tripTime? p (.failure now) = none from if_neg hlast]
        exact List.append_nil _
      -- A failure that is not the last one that the policy allows stays below the threshold.
      have hbelow : (b.failures : Int) + 1 < p.threshold := Int.not_le.1 (not_or.1 hlast).2
      rw [fail_of_not_isLast hlast]
      exact ⟨hfailures.symm, fun _ => by push_cast; exact hbelow, hsame ▸ h.opened⟩
  | trip now =>
    rw [after_trip]
    refine ⟨hfailures.symm, CircuitState.noConfusion, fun _ => ?_⟩
    rw [htimes]
    exact List.getLast?_concat

/-- A breaker keeps the accounts of all its calls. -/
theorem accounts_foldl (hthreshold : 1 ≤ p.threshold) (calls : List Call) :
    Accounts p calls (calls.foldl (Breaker.after p) {}) := by
  induction calls using List.reverseRecOn with
  | nil => exact accounts_nil hthreshold
  | append_singleton calls c ih =>
    rw [List.foldl_append]
    exact ih.after hthreshold rfl c

/-- A breaker becomes half open only when it is open and is asked after its time has gone by. -/
theorem eq_allow_of_halfOpen (hbefore : b.state ≠ .halfOpen) (hafter : (b.after p c).state = .halfOpen) :
    b.state = .opened ∧ ∃ now, c = .allow now ∧ p.resetTimeout ≤ now - b.openedAt := by
  cases c with
  | allow now =>
    rcases ask_eq p now b with hask | ⟨hopen, hlong, -⟩
    · rw [after_allow, hask] at hafter
      exact absurd hafter hbefore
    · exact ⟨hopen, now, rfl, hlong⟩
  | success => cases hafter
  | failure now =>
    rw [after_failure] at hafter
    by_cases hlast : b.IsLast p
    · rw [fail_of_isLast hlast] at hafter
      cases hafter
    · rw [fail_of_not_isLast hlast] at hafter
      exact absurd hafter hbefore
  | trip now => cases hafter

end

end Breaker

namespace Breakers

/-! ### The breakers of many targets -/

section

variable {bs : Breakers} {name : String}

theorem policy_after (bs : Breakers) (calls : List (String × Breaker.Call)) : (bs.after calls).policy = bs.policy := by
  induction calls generalizing bs with
  | nil => rfl
  | cons c calls ih => exact ih (bs.call c.1 c.2).1

/-- A breaker has come about by the calls of its own name, one after another. -/
theorem get_after (bs : Breakers) (calls : List (String × Breaker.Call)) (name : String) :
    (bs.after calls).get name =
      ((calls.filter (·.1 == name)).map (·.2)).foldl (Breaker.after bs.policy) (bs.get name) := by
  induction calls generalizing bs with
  | nil => rfl
  | cons c calls ih =>
    have hstep : (bs.after (c :: calls)).get name = ((bs.call c.1 c.2).1.after calls).get name := rfl
    have hpolicy : (bs.call c.1 c.2).1.policy = bs.policy := rfl
    rw [hstep, ih, hpolicy, get_call]
    by_cases hname : name = c.1
    · subst hname
      simp
    · have hother : (c.1 == name) = false := by simpa using Ne.symm hname
      rw [if_neg hname, List.filter_cons, hother]
      rfl

/-- Opening some breakers opens these, and leaves the others as they are. -/
private theorem get_foldl_trip (opened : List String) (bs : Breakers) (name : String) :
    (opened.foldl (fun bs name => bs.update name (·.trip 0)) bs).get name =
      if opened.contains name then (bs.get name).trip 0 else bs.get name := by
  induction opened generalizing bs with
  | nil => rfl
  | cons first rest ih =>
    rw [List.foldl_cons, ih, get_update, List.contains_cons]
    by_cases hfirst : name = first
    · subst hfirst
      simp [Breaker.trip]
    · simp [hfirst]

/-- In the beginning the breakers are open that are to be open then. -/
theorem get_start (p : BreakerPolicy) (opened : List String) (name : String) :
    (start p opened).get name = if opened.contains name then ({} : Breaker).trip 0 else {} :=
  get_foldl_trip opened { policy := p } name

theorem policy_start (p : BreakerPolicy) (opened : List String) : (start p opened).policy = p := by
  unfold start
  suffices h : ∀ bs : Breakers, (opened.foldl (fun bs name => bs.update name (·.trip 0)) bs).policy = bs.policy from
    h { policy := p }
  induction opened with
  | nil => exact fun _ => rfl
  | cons first rest ih => exact fun bs => ih (bs.update first (·.trip 0))

/-- The calls of a name, after the trip at time zero if its breaker is open from the beginning. -/
def callsOf (opened : List String) (calls : List (String × Breaker.Call)) (name : String) : List Breaker.Call :=
  (if opened.contains name then [.trip 0] else []) ++ (calls.filter (·.1 == name)).map (·.2)

theorem get_after_start (p : BreakerPolicy) (opened : List String) (calls : List (String × Breaker.Call))
    (name : String) :
    ((start p opened).after calls).get name = (callsOf opened calls name).foldl (Breaker.after p) {} := by
  rw [get_after, policy_start, get_start, callsOf, List.foldl_append]
  split
  · rfl
  · rfl

end

/-- Whatever breakers are called in whatever order, the breaker of a name keeps the accounts of its own calls. It refuses
calls just as long as it is open and its time has not gone by, a call that it lets pass then is the only way for it to
become half open, and calls on other names do not change it. -/
theorem accounts_of_calls {p : BreakerPolicy} (hthreshold : 1 ≤ p.threshold) (opened : List String)
    (calls : List (String × Breaker.Call)) (name : String) :
    let bs := (start p opened).after calls
    let b := bs.get name
    Breaker.Accounts p (callsOf opened calls name) b ∧
      (∀ now, ∃ passes, (bs.call name (.allow now)).2 = some passes ∧
        (passes = false ↔ b.state = .opened ∧ now - b.openedAt < p.resetTimeout)) ∧
      (∀ c, b.state ≠ .halfOpen → (((bs.call name c).1.get name).state = .halfOpen ↔
        b.state = .opened ∧ ∃ now, c = .allow now ∧ (bs.call name c).2 = some true)) ∧
      ∀ other c, other ≠ name → (bs.call other c).1.get name = b := by
  intro bs b
  have hpolicy : bs.policy = p := by
    rw [policy_after, policy_start]
  have hself (c : Breaker.Call) : (bs.call name c).1.get name = b.after p c := by
    rw [get_call, if_pos rfl, hpolicy]
  have hanswer (now : Int) : (bs.call name (.allow now)).2 = some (b.allows p now) := by
    rw [← hpolicy]
    rfl
  refine ⟨?_, fun now => ⟨b.allows p now, hanswer now, Breaker.allows_eq_false_iff⟩, fun c hbefore => ?_,
    fun other c hother => ?_⟩
  · rw [show b = _ from get_after_start p opened calls name]
    exact Breaker.accounts_foldl hthreshold _
  · rw [hself]
    constructor
    · intro hafter
      obtain ⟨hopen, now, rfl, hlong⟩ := Breaker.eq_allow_of_halfOpen hbefore hafter
      refine ⟨hopen, now, rfl, ?_⟩
      rw [hanswer, Breaker.allows, decide_eq_true hlong, Bool.or_true]
    · rintro ⟨hopen, now, rfl, hpasses⟩
      rw [hanswer, Option.some_inj] at hpasses
      simp [Breaker.after, Breaker.ask, hopen, hpasses]
  · rw [get_call, if_neg (Ne.symm hother)]

/-- The breaker of a target that is down from the beginning is tripped again by its first probe, and that of another
target by its second failure. -/
theorem accounts_of_relapse :
    let p : BreakerPolicy := { threshold := 2, resetTimeout := 10 }
    let calls : List (String × Breaker.Call) :=
      [("crm", .allow 3), ("erp", .failure 4), ("crm", .allow 12), ("erp", .failure 7), ("crm", .failure 13)]
    let bs := (start p ["crm"]).after calls
    1 ≤ p.threshold ∧ bs.get "crm" = ⟨.opened, 1, 13⟩ ∧ bs.get "erp" = ⟨.opened, 2, 7⟩ ∧
      Breaker.Accounts p [.trip 0, .allow 3, .allow 12, .failure 13] (bs.get "crm") ∧
      Breaker.tripTimes p {} [.trip 0, .allow 3, .allow 12, .failure 13] = [0, 13] ∧
      (bs.call "crm" (.allow 22)).2 = some false := by
  intro p calls bs
  obtain ⟨haccounts, hanswers, -⟩ := accounts_of_calls (p := p) (by decide) ["crm"] calls "crm"
  refine ⟨by decide, by decide, by decide, haccounts, by decide, ?_⟩
  obtain ⟨passes, hpasses, hrefused⟩ := hanswers 22
  rw [hrefused.2 ⟨by decide, by decide⟩] at hpasses
  exact hpasses

end Breakers

end IntegrationFlow.Simulation
