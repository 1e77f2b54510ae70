import IntegrationFlow.Proofs.Run.Attempts
import IntegrationFlow.Proofs.Run.Cancelled

/-!
# Retries within retries

A call makes retries of its own, and an error handler has the whole call made again when it has failed in the end. Both
count the same attempts, so they go together: a call that makes `R` retries of its own, and that is to fail `F` times,
is made again `F / (R + 1)` times by a handler until it succeeds, if the handler may try so often (`recovery_of_run`).
-/

namespace IntegrationFlow.Run

open Simulation Sim

/-! ### Values that stay -/

section

variable {env : Env} {n : Node} {s s' : State}

end

/-! ### A handler that tries a call again -/

/-- What comes of it when a handler may try a call so many more times that fails in its first attempts. Before that it
has done so `done` times, all in vain. -/
structure Retried (c : OutboundCall) (failures : Nat) (handler : String) (done limit : Nat) (again : List Record)
    (o : NodeOutcome) (d : Documents) : Prop where
  node : ∀ x ∈ again, x.node = c.node.id
  length : again.length = min (failures / (c.config.retries + 1) - done) limit
  verdict : o.failure? = none ↔ failures < (c.config.retries + 1) * (done + limit + 1)
  /-- The handler has succeeded with the last attempt, whose value it hands on. -/
  mended : o.failure? = none → o.retryCount = failures / (c.config.retries + 1) ∧ o.absorbed = true ∧
    o.exits = .only handledPort ∧ o.result = .ok (d.read (.retried handler)) ∧
      ∃ last, again.getLast? = some last ∧ last.status = .success ∧ last.output? = some (.retried handler) ∧
        last.retryCount = failures % (c.config.retries + 1)

namespace Retried

variable {c : OutboundCall} {failures : Nat} {handler : String} {done : Nat} {o : NodeOutcome} {d : Documents}

/-- As many attempts have failed as fit into the failures. -/
private theorem le_div (hmany : (c.config.retries + 1) * (done + 1) ≤ failures) :
    done + 1 ≤ failures / (c.config.retries + 1) :=
  (Nat.le_div_iff_mul_le (Nat.succ_pos _)).2 (by rwa [Nat.mul_comm])

/-- A handler without further attempts passes the failure on. -/
theorem giveUp {f : Failure} (hmany : (c.config.retries + 1) * (done + 1) ≤ failures) (ho : o.result = .error f) :
    Retried c failures handler done 0 [] o d := by
  have hfailed : o.failure? ≠ none := by simp [NodeOutcome.failure?, ho]
  refine ⟨by simp, by simp, iff_of_false hfailed ?_, fun h => absurd h hfailed⟩
  rw [Nat.add_zero]
  exact not_lt.2 hmany

/-- An attempt that succeeds is the last one. -/
theorem mend {remaining waited : Nat} {base : Int} {x : Record} {output : Cell}
    (hmany : (c.config.retries + 1) * (done + 1) ≤ failures) (hlt : failures < (c.config.retries + 1) * (done + 1 + 1))
    (hnode : x.node = c.node.id) (hstatus : x.status = .success) (houtput : x.output? = some (.retried handler))
    (hretries : x.retryCount = min (failures - (c.config.retries + 1) * (done + 1)) c.config.retries)
    (hvalue : d.read (.retried handler) = output) :
    Retried c failures handler done (remaining + 1) [x]
      { result := .ok output, exits := .only handledPort, absorbed := true,
        duration? := some (base + waited), retryCount := done + 1 } d := by
  have hlast : failures / (c.config.retries + 1) = done + 1 := by
    refine Nat.le_antisymm (Nat.le_of_lt_succ ((Nat.div_lt_iff_lt_mul (Nat.succ_pos _)).2 ?_)) (le_div hmany)
    rwa [Nat.mul_comm]
  have hrest : failures % (c.config.retries + 1) = failures - (c.config.retries + 1) * (done + 1) := by
    rw [Nat.mod_eq_sub_mul_div, hlast]
  have hbound : (c.config.retries + 1) * (done + 1 + 1) ≤ (c.config.retries + 1) * (done + (remaining + 1) + 1) :=
    Nat.mul_le_mul_left _ (by omega)
  have hwhole : (c.config.retries + 1) * (done + 1 + 1) =
      (c.config.retries + 1) * (done + 1) + (c.config.retries + 1) := Nat.mul_succ _ _
  refine ⟨by simpa using hnode, ?_, iff_of_true rfl (hlt.trans_le hbound),
    fun _ => ⟨hlast.symm, rfl, rfl, congrArg _ hvalue.symm, x, rfl, hstatus, houtput, ?_⟩⟩
  · rw [hlast]
    simp
  · rw [hretries, hrest]
    omega

/-- An attempt that fails comes before those that the handler makes after it. -/
theorem cons {remaining : Nat} {again : List Record} {x : Record}
    (h : Retried c failures handler (done + 1) remaining again o d)
    (hmany : (c.config.retries + 1) * (done + 1) ≤ failures) (hnode : x.node = c.node.id) :
    Retried c failures handler done (remaining + 1) (x :: again) o d := by
  have hleast := le_div hmany
  refine ⟨List.forall_mem_cons.2 ⟨hnode, h.node⟩, ?_, ?_, fun hmended => ?_⟩
  · rw [List.length_cons, h.length]
    omega
  · rw [h.verdict]
    exact iff_of_eq (by congr 2; omega)
  · obtain ⟨hnumber, habsorbed, hexits, hhanded, last, hlast, hrest⟩ := h.mended hmended
    exact ⟨hnumber, habsorbed, hexits, hhanded, last, by rw [List.getLast?_cons, hlast]; rfl, hrest⟩

end Retried

section

variable {env : Env} {c : OutboundCall} {failures : Nat} (valid : env.Valid) (hfails : c.FailsFirst env failures)
  {r : Retrying} (hn : r.origin ∈ env.flow.nodes) (hcall : MakesCall r.origin c) {s s' : State} {o : NodeOutcome}

include valid hfails hn hcall

end

/-! ### The visit of the handler -/

section

variable {env : Env} (valid : env.Valid) {n h : Node} (hn : n ∈ env.flow.nodes) (hh : h ∈ env.flow.nodes)
  {limit : Nat} (hagain : TriesAgain env.flow h limit) {s s' : State} {o : NodeOutcome} {incoming : Signal}
  {f : Failure} (hfailure : incoming.failure? = some f) (hid : f.node = n.id)

include valid hn hh hagain hfailure hid

end

/-! ### Visits in a row -/

section

variable {env : Env} {later : List Node} {s s' : State} {id : String}

variable (valid : env.Valid) (hnodes : ∀ n ∈ later, n ∈ env.flow.nodes) (hid : id ∉ later.map (·.id))

include valid hnodes hid

end

/-! ### Runs -/

section

variable {env : Env} (valid : env.Valid) {n : Node} (hn : n ∈ env.flow.nodes) {c : OutboundCall} {failures : Nat}
  (hcall : MakesCall n c) (hfails : c.FailsFirst env failures) {s s' : State}

include valid hn hcall hfails

end

section

variable {env : Env} {openCircuits : List String} {start : String} {n : Node} {done later : List Node} {s s₁ s' : State}

variable (valid : env.Valid)

include valid

end

section

variable {env : Env} (valid : env.Valid) {n h : Node} (hn : n ∈ env.flow.nodes) (hh : h ∈ env.flow.nodes)
  {c : OutboundCall} (hcall : MakesCall n c) {failures : Nat} (hfails : c.FailsFirst env failures) {limit : Nat}
  (hagain : TriesAgain env.flow h limit) {openCircuits : List String} {s : State} (hcalm : s.cancelled = false)
  (hentered : s.invoked.lookup n.id ≠ none)

include valid hn hh hcall hfails hagain hcalm hentered

end

/-! ### A call that is mended -/

end IntegrationFlow.Run
