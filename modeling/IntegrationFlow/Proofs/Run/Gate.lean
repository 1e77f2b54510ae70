import IntegrationFlow.Proofs.Run.Order
import IntegrationFlow.Proofs.Run.Visit

/-!
# Runs of valid flows

A property of the ledger that holds at the beginning and is `Kept` by every visit holds in the end of every run that was
not cancelled (`meets_simulate`). In particular no run of a valid flow ends with a fault: the check of a flow is all
that a run has to rely on.
-/

namespace IntegrationFlow.Run

open Simulation Sim

/-- A property of the nodes that were visited and of the ledger is kept by the visit of the node that comes next. -/
def Kept (env : Env) (order : List Node) (p : List Node → Ledger → Prop) : Prop :=
  ∀ done n later before after, order = done ++ n :: later → p done before → Visited env n before after →
    p (done ++ [n]) after

/-- Visiting the nodes that are left keeps the property; only when the run was cancelled some are left over. -/
theorem meets_visitAll {env : Env} (valid : env.Valid) {order : List Node} (hnodes : ∀ n ∈ order, n ∈ env.flow.nodes)
    {p : List Node → Ledger → Prop} (hkept : Kept env order p) (later : List Node) {done : List Node} {s : State}
    (horder : order = done ++ later) (hp : p done s.ledger) (hrunning : s.status = .running) :
    Meets (visitAll env later) s fun finished s' =>
      if finished then s'.status = .running ∧ p order s'.ledger else s'.status = .cancelled := by
  induction later generalizing done s with
  | nil =>
    rw [List.append_nil] at horder
    subst horder
    exact meets_pure ⟨hrunning, hp⟩
  | cons n later ih =>
    have hn : n ∈ env.flow.nodes := hnodes n (by rw [horder]; simp)
    unfold visitAll
    refine meets_get_bind ?_
    split
    · refine (meets_transition (by rw [hrunning]; rfl)).bind ?_
      rintro _ _ rfl
      exact meets_pure rfl
    · refine (meets_visit valid hn s).bind fun _ s₁ hvisited => ?_
      have hstatus : s₁.status = .running := hvisited.status_eq.trans hrunning
      exact ih (by rw [horder, List.append_assoc]; rfl) (hkept done n later _ _ horder hp hvisited) hstatus

/-- A property of the nodes that were visited and of the ledger holds in the end of every run that was not cancelled,
when it holds in the beginning and is kept along the order of the flow. -/
theorem meets_simulate_along {env : Env} (valid : env.Valid) {ingress : Node} {order : List Node}
    (hingress : Validator.ingressNodes env.engine.registry env.flow = [ingress])
    (horder : executionOrder? env.flow ingress = some order) (hstable : IsStableOrder env.flow ingress.id order)
    {p : List Node → Ledger → Prop} (hstart : p [] ⟨.running, [], [], [], []⟩) (hkept : Kept env order p)
    (openCircuits : List String) :
    Meets (simulate env) (initialState env openCircuits) fun _ s' => s'.status = .cancelled ∨
      ∃ l, p order l ∧ s'.ledger = { l with status := if l.unrecovered.isEmpty then .success else .error } := by
  unfold simulate
  refine (meets_transition rfl).bind ?_
  rintro _ _ rfl
  refine (quiet_publish env _ _).bind fun _ s₁ h₁ => ?_
  refine meets_bind_of_ok (orderOf_eq_ok valid.flow hingress horder) ?_
  have hledger : s₁.ledger = ⟨.running, [], [], [], []⟩ := h₁.1
  have hrunning : s₁.status = .running := congrArg Ledger.status hledger
  refine (meets_visitAll valid (fun n hn => ((hstable.mem_iff n).1 hn).1) hkept order rfl (hledger ▸ hstart)
    hrunning).bind fun finished s₂ h₂ => ?_
  cases finished with
  | false => exact meets_pure (.inl h₂)
  | true =>
    obtain ⟨hstatus, hend⟩ := h₂
    refine meets_get_bind ((meets_transition ?_).mono ?_)
    · rw [hstatus]
      split <;> rfl
    · rintro _ _ rfl
      exact .inr ⟨s₂.ledger, hend, rfl⟩

/-- A property of the order, the nodes that were visited and the ledger holds in the end of every run that was not
cancelled, when it holds in the beginning and is kept. -/
theorem meets_simulate {env : Env} (valid : env.Valid) {p : List Node → List Node → Ledger → Prop}
    (hp : ∀ ingress order, IsStableOrder env.flow ingress order →
      p order [] ⟨.running, [], [], [], []⟩ ∧ Kept env order (p order))
    (openCircuits : List String) :
    Meets (simulate env) (initialState env openCircuits) fun _ s' => s'.status = .cancelled ∨
      ∃ ingress order l, IsStableOrder env.flow ingress order ∧ p order order l ∧
        s'.ledger = { l with status := if l.unrecovered.isEmpty then .success else .error } := by
  obtain ⟨ingress, order, hingress, horder, hstable⟩ := exists_order valid.flow
  obtain ⟨hstart, hkept⟩ := hp ingress.id order hstable
  refine (meets_simulate_along valid hingress horder hstable hstart hkept openCircuits).mono fun _ s' h => h.imp_right ?_
  rintro ⟨l, hend, hl⟩
  exact ⟨ingress.id, order, l, hstable, hend, hl⟩

/-- The flows that are run are the valid ones. -/
theorem Engine.run_eq_ok_iff {engine : Engine} {f : Flow} {r : Request} {report : Report} :
    engine.run f r = .ok report ↔ f.Valid engine.registry ∧ report = execute (r.env engine f) r.openCircuits := by
  rw [Flow.valid_iff_ensureValid]
  unfold Engine.run
  cases Validator.ensureValid engine.registry f with
  | error e => simp
  | ok findings =>
    constructor
    · intro h
      cases h
      exact ⟨⟨findings, rfl⟩, rfl⟩
    · rintro ⟨-, rfl⟩
      rfl

/-- The trace of a run that has come to its end. -/
theorem trace_execute_of_ok {env : Env} {openCircuits : List String} {s : State}
    (hs : simulate env (initialState env openCircuits) = .ok () s) :
    (execute env openCircuits).trace = .ok (traceOf env s none) := by
  unfold execute
  rw [hs]

/-- A run that comes to its end gives a trace of the state in which it has ended. -/
theorem exists_trace_of_isOk {engine : Engine} {f : Flow} {r : Request} {p : State → Prop}
    (hvalid : f.Valid engine.registry)
    (hok : isOk (simulate (r.env engine f)) (initialState (r.env engine f) r.openCircuits) = true)
    (hend : p (endState (simulate (r.env engine f)) (initialState (r.env engine f) r.openCircuits))) :
    ∃ report s, engine.run f r = .ok report ∧ report.trace = .ok (traceOf (r.env engine f) s none) ∧ p s :=
  ⟨_, _, Engine.run_eq_ok_iff.2 ⟨hvalid, rfl⟩, trace_execute_of_ok (eq_ok_endState hok), hend⟩

/-- The trace of a run without a fault is made from the state in which the run has ended. -/
theorem trace_execute {env : Env} {openCircuits : List String} {post : Unit → State → Prop}
    (hmeets : Meets (simulate env) (initialState env openCircuits) post) {t : Trace}
    (ht : (execute env openCircuits).trace = .ok t) :
    ∃ s, simulate env (initialState env openCircuits) = .ok () s ∧ post () s ∧ t = traceOf env s none := by
  unfold execute at ht
  split at ht
  · next s hs =>
    cases ht
    exact ⟨s, hs, hmeets.of_ok hs, rfl⟩
  · next f s hfault => exact absurd hfault hmeets.not_fault
  · cases ht
  · cases ht

/-- A run of a valid flow is never refused, and when it has a trace, the trace reports no fault. -/
theorem no_fault_of_valid {engine : Engine} {f : Flow} (hbuiltin : engine.registry = .builtin)
    (valid : f.Valid engine.registry) (r : Request) :
    ∃ report, engine.run f r = .ok report ∧ ∀ t, report.trace = .ok t → t.fault? = none := by
  refine ⟨_, Engine.run_eq_ok_iff.2 ⟨valid, rfl⟩, fun t ht => ?_⟩
  have hvalid : (r.env engine f).Valid := ⟨hbuiltin, valid⟩
  have hmeets := meets_simulate hvalid (p := fun _ _ _ => True)
    (fun _ _ _ => ⟨trivial, fun _ _ _ _ _ _ _ _ => trivial⟩) r.openCircuits
  obtain ⟨s, -, -, rfl⟩ := trace_execute hmeets ht
  rfl

theorem no_fault_of_diamond : ∃ report, Engine.run {} diamond { execution := "run" } = .ok report ∧
    ∀ t, report.trace = .ok t → t.fault? = none :=
  no_fault_of_valid rfl (by decide) { execution := "run" }

end IntegrationFlow.Run
