import IntegrationFlow.Proofs.Run.Gate
import IntegrationFlow.Proofs.Run.Turn

/-!
# The course of a run

A run begins (`begun`), visits its nodes one after another until it is cancelled (`visitAll_cons`), and ends
(`simulate_eq`).
-/

namespace IntegrationFlow.Run

open Simulation Sim

/-- The state in which a run begins with its nodes. -/
def begun (env : Env) (openCircuits : List String) : State :=
  endState (publish env (.runStarted env.flow.id env.execution env.input))
    { initialState env openCircuits with status := .running }

/-- End a run, unless it was cancelled. -/
def finishRun (finished : Bool) : Sim Unit := do
  if finished then transition (if (← get).unrecovered.isEmpty then .success else .error) else pure ()

/-- A run begins at time zero with nothing in its ledger, and the only event tells that it has begun. -/
theorem begun_eq (env : Env) (openCircuits : List String) :
    (begun env openCircuits).ledger = ⟨.running, [], [], [], []⟩ ∧ (begun env openCircuits).clock.now = 0 ∧
      (begun env openCircuits).events =
        if env.observed then [.runStarted env.flow.id env.execution env.input] else [] := by
  unfold begun endState publish
  by_cases hobserved : env.observed = true
  · rw [if_pos hobserved, if_pos hobserved]
    exact ⟨rfl, rfl, rfl⟩
  · rw [if_neg hobserved, if_neg hobserved]
    exact ⟨rfl, rfl, rfl⟩

/-- A status that is taken on is all that changes. -/
theorem transition_eq_ok_iff {new : RunStatus} {s s' : State} :
    transition new s = .ok () s' ↔ s.status.allows new = true ∧ s' = { s with status := new } := by
  have hget : transition new s =
      (if s.status.allows new then set { s with status := new } else fault (.illegalTransition s.status new) : Sim Unit)
        s := rfl
  rw [hget]
  by_cases hallowed : s.status.allows new = true
  · rw [if_pos hallowed]
    constructor
    · intro h
      cases h
      exact ⟨hallowed, rfl⟩
    · rintro ⟨-, rfl⟩
      rfl
  · rw [if_neg hallowed]
    constructor
    · intro h
      cases h
    · rintro ⟨h, -⟩
      exact absurd h hallowed

/-! ### Visits in a row -/

section

variable {env : Env} {n : Node} {done later : List Node} {s s₁ s' : State} {finished : Bool}

theorem visitAll_of_cancelled (h : s.cancelled = true) :
    visitAll env (n :: later) s = (transition .cancelled >>= fun _ => pure false) s := by
  unfold visitAll
  refine (bind_eq_of_ok _ rfl).trans ?_
  rw [if_pos h]

theorem visitAll_of_running (h : s.cancelled = false) :
    visitAll env (n :: later) s = (visit env n >>= fun _ => visitAll env later) s := by
  conv_lhs => unfold visitAll
  refine (bind_eq_of_ok _ rfl).trans ?_
  rw [if_neg (by simp [h])]

/-- What a run does when nobody has cancelled it before a node. -/
theorem visitAll_cons (h : visitAll env (n :: later) s = .ok finished s') :
    (s.cancelled = true ∧ finished = false ∧ s' = { s with status := .cancelled }) ∨
      s.cancelled = false ∧ ∃ s₁, visit env n s = .ok () s₁ ∧ visitAll env later s₁ = .ok finished s' := by
  by_cases hcancelled : s.cancelled = true
  · rw [visitAll_of_cancelled hcancelled] at h
    obtain ⟨_, s₁, htransition, h⟩ := exists_of_bind_eq_ok h
    cases h
    exact .inl ⟨hcancelled, rfl, (transition_eq_ok_iff.1 htransition).2⟩
  · rw [Bool.not_eq_true] at hcancelled
    rw [visitAll_of_running hcancelled] at h
    obtain ⟨_, s₁, hvisit, h⟩ := exists_of_bind_eq_ok h
    exact .inr ⟨hcancelled, s₁, hvisit, h⟩

/-- The visits of some nodes are followed by those of the others. -/
theorem visitAll_append (h : visitAll env done s = .ok true s₁) :
    visitAll env (done ++ later) s = visitAll env later s₁ := by
  induction done generalizing s with
  | nil =>
    cases h
    rfl
  | cons n done ih =>
    rcases visitAll_cons h with ⟨-, hfinished, -⟩ | ⟨hrunning, s₂, hvisit, h⟩
    · cases hfinished
    · rw [List.cons_append, visitAll_of_running hrunning, bind_eq_of_ok _ hvisit]
      exact ih h

/-- A run that leaves nodes over is cancelled. -/
theorem status_of_visitAll_false (h : visitAll env later s = .ok false s') : s'.status = .cancelled := by
  induction later generalizing s with
  | nil => cases h
  | cons n later ih =>
    rcases visitAll_cons h with ⟨-, -, rfl⟩ | ⟨-, s₁, -, h⟩
    · rfl
    · exact ih h

/-- One more node is visited. -/
theorem visitAll_concat (h : visitAll env done s = .ok true s₁) (hrunning : s₁.cancelled = false)
    (hvisit : visit env n s₁ = .ok () s') : visitAll env (done ++ [n]) s = .ok true s' := by
  rw [visitAll_append h, visitAll_of_running hrunning, bind_eq_of_ok _ hvisit]
  rfl

/-- When all nodes were visited, the first ones were visited before the others. -/
theorem exists_of_visitAll_append (h : visitAll env (done ++ later) s = .ok true s') :
    ∃ s₁, visitAll env done s = .ok true s₁ ∧ visitAll env later s₁ = .ok true s' := by
  induction done generalizing s with
  | nil => exact ⟨s, rfl, h⟩
  | cons n done ih =>
    rcases visitAll_cons h with ⟨-, hfinished, -⟩ | ⟨hrunning, s₂, hvisit, h⟩
    · cases hfinished
    · obtain ⟨s₁, hdone, hlater⟩ := ih h
      refine ⟨s₁, ?_, hlater⟩
      rw [visitAll_of_running hrunning, bind_eq_of_ok _ hvisit]
      exact hdone

/-- Before the last node of a run that was not cancelled before it, the others were visited. -/
theorem exists_of_visitAll_concat (h : visitAll env (done ++ [n]) s = .ok true s') :
    ∃ s₁, visitAll env done s = .ok true s₁ ∧ s₁.cancelled = false ∧ visit env n s₁ = .ok () s' := by
  obtain ⟨s₁, hdone, hlast⟩ := exists_of_visitAll_append h
  rcases visitAll_cons hlast with ⟨-, hfinished, -⟩ | ⟨hrunning, s₂, hvisit, hnone⟩
  · cases hfinished
  · cases hnone
    exact ⟨s₁, hdone, hrunning, hvisit⟩

variable (valid : env.Valid) {start : String} (hstable : IsStableOrder env.flow start (done ++ later))
  (hstart : s.ledger = ⟨.running, [], [], [], []⟩)

include valid hstable hstart

/-- After the first nodes of the order were visited, the run goes on, and every one of them has taken its turn. -/
theorem exists_turned (h : visitAll env done s = .ok true s₁) :
    s₁.status = .running ∧ ∃ turns, Turned env done s₁.ledger turns := by
  have hkept : Kept env done fun done l => ∃ turns, Turned env done l turns := by
    rintro past n rest before after rfl hturned hvisited
    exact kept_turned valid hstable past n (rest ++ later) before after (by simp) hturned hvisited
  exact (meets_visitAll valid hstable.declared hkept done (List.nil_append _).symm ⟨[], hstart ▸ turned_start env⟩
    (congrArg Ledger.status hstart)).of_ok h

end

/-! ### Whole runs -/

/-- A run that takes up an order visits its nodes and then ends. -/
theorem simulate_eq_of_orderOf {env : Env} {order : List Node} (horder : ∀ s, orderOf env s = .ok order s)
    (openCircuits : List String) :
    simulate env (initialState env openCircuits) = (visitAll env order >>= finishRun) (begun env openCircuits) := by
  have hpublish (s : State) : publish env (.runStarted env.flow.id env.execution env.input) s =
      .ok () (endState (publish env (.runStarted env.flow.id env.execution env.input)) s) := by
    refine eq_ok_endState ?_
    unfold publish
    by_cases hobserved : env.observed = true
    · rw [if_pos hobserved]
      rfl
    · rw [if_neg hobserved]
      rfl
  unfold simulate
  refine (bind_eq_of_ok _ rfl).trans ((bind_eq_of_ok _ (hpublish _)).trans ?_)
  exact bind_eq_of_ok _ (horder _)

section

variable {env : Env} (valid : env.Valid) {ingress : Node} {order : List Node}

include valid

/-- A run visits its nodes and then ends. -/
theorem simulate_eq (hingress : Validator.ingressNodes env.engine.registry env.flow = [ingress])
    (horder : executionOrder? env.flow ingress = some order) (openCircuits : List String) :
    simulate env (initialState env openCircuits) = (visitAll env order >>= finishRun) (begun env openCircuits) :=
  simulate_eq_of_orderOf (fun _ => orderOf_eq_ok valid.flow hingress horder) openCircuits

omit valid in
/-- A run that was not cancelled has visited all its nodes, and then only takes on its last status. -/
theorem exists_visited {s s' : State} (h : (visitAll env order >>= finishRun) s = .ok () s')
    (hfinished : s'.status ≠ .cancelled) :
    ∃ s₁ status, visitAll env order s = .ok true s₁ ∧ s' = { s₁ with status } := by
  obtain ⟨finished, s₁, hvisits, h⟩ := exists_of_bind_eq_ok h
  cases finished with
  | false =>
    cases h
    exact absurd (status_of_visitAll_false hvisits) hfinished
  | true => exact ⟨s₁, _, hvisits, (transition_eq_ok_iff.1 h).2⟩

/-- A trace of a run of a valid flow is made from the state in which the run has ended. -/
theorem exists_end_of_trace {openCircuits : List String} {t : Trace} (ht : (execute env openCircuits).trace = .ok t) :
    ∃ s, simulate env (initialState env openCircuits) = .ok () s ∧ t = traceOf env s none ∧
      (s.status = .cancelled ∨ s.status = .success ∨ s.status = .error) := by
  have hmeets := meets_simulate valid (p := fun _ _ _ => True) (fun _ _ _ => ⟨trivial, fun _ _ _ _ _ _ _ _ => trivial⟩)
    openCircuits
  obtain ⟨s, hs, hend, rfl⟩ := trace_execute hmeets ht
  refine ⟨s, hs, rfl, hend.imp_right ?_⟩
  rintro ⟨_, _, l, -, -, hl⟩
  have hstatus : s.status = if l.unrecovered.isEmpty then .success else .error := congrArg Ledger.status hl
  rw [hstatus]
  split
  · exact .inl rfl
  · exact .inr rfl

end

end IntegrationFlow.Run
