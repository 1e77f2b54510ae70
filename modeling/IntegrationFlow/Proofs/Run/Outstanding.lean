import IntegrationFlow.Proofs.Run.Gate

/-!
# No failure is lost silently

After a step has failed, an edge to a node that is still to be visited carries a failure, or a failure stays
unrecovered, or a handler has absorbed one. `Accounted` says so, together with what makes it survive every visit
(`kept_accounted`). At the end no node is still to be visited, so an error that no handler has absorbed is reported.
-/

namespace IntegrationFlow.Run

open Simulation Sim

namespace Ledger

/-- A step of a node tells that it has absorbed a failure: an error handler was successful though one had come in. -/
def Absorbs (l : Ledger) (node type : String) (status : StepStatus) : Prop :=
  type = Kind.errorHandler.name ∧ status = .success ∧
    ∃ incoming, l.invoked.lookup node = some incoming ∧ incoming.failure?.isSome = true

/-- A failure was absorbed. -/
def Absorbed (l : Ledger) : Prop :=
  ∃ r ∈ l.records, l.Absorbs r.node r.type r.status

/-- A failure is unrecovered, or an edge to a node that was not visited carries one. -/
def Outstanding (f : Flow) (done : List Node) (l : Ledger) : Prop :=
  l.unrecovered ≠ [] ∨ ∃ e ∈ f.edges, e.target ∉ done.map (·.id) ∧ l.failureOn e ≠ none

end Ledger

/-- Where the failures of a run are after some nodes were visited. -/
structure Accounted (env : Env) (done : List Node) (l : Ledger) : Prop where
  /-- Only the edges of visited nodes carry anything. -/
  sources : ∀ e ∈ env.flow.edges, l.signals.lookup e.id ≠ none → e.source ∈ done.map (·.id)
  /-- Only visited nodes were invoked. -/
  entered : ∀ id, l.invoked.lookup id ≠ none → id ∈ done.map (·.id)
  /-- After an error there is a failure to be dealt with, unless one was absorbed. -/
  held : ∀ r ∈ l.records, r.status = .error → l.Absorbed ∨ l.Outstanding env.flow done
  /-- Without an error there is no failure. -/
  calm : (∀ r ∈ l.records, r.status ≠ .error) → l.unrecovered = [] ∧ ∀ e ∈ env.flow.edges, l.failureOn e = none

theorem accounted_start (env : Env) : Accounted env [] ⟨.running, [], [], [], []⟩ where
  sources := fun _ _ h => absurd rfl h
  entered := fun _ h => absurd rfl h
  held := fun r hr => by simp at hr
  calm := fun _ => ⟨rfl, fun _ _ => rfl⟩

section

variable {env : Env} {n : Node} {done later : List Node} {before after : Ledger} {start : String}

/-- What was absorbed stays absorbed. -/
private theorem Accounted.absorbed_mono (h : Accounted env done before) (hn : n.id ∉ done.map (·.id))
    (hvisited : Visited env n before after) (habsorbed : before.Absorbed) : after.Absorbed := by
  obtain ⟨r, hr, htype, hstatus, incoming, hincoming, hfailure⟩ := habsorbed
  have hne : r.node ≠ n.id := by
    intro heq
    exact hn (heq ▸ h.entered r.node (by simp [hincoming]))
  -- The node was not invoked before, so what it was invoked with hides nothing.
  have hsame := (hvisited.invoked_lookup_eq hne).trans hincoming
  exact ⟨r, hvisited.mem_records hr, htype, hstatus, incoming, hsame, hfailure⟩

/-- The failures that no edge to the visited node carries are still there. -/
private theorem Accounted.outstanding_mono (valid : env.Valid) (h : Accounted env done before)
    (hn : n.id ∉ done.map (·.id)) (hvisited : Visited env n before after)
    (hcalm : ∀ e ∈ env.flow.incoming n.id, before.failureOn e = none) (hout : before.Outstanding env.flow done) :
    after.Outstanding env.flow (done ++ [n]) := by
  rcases hout with hlost | ⟨e, he, htarget, hfailure⟩
  · left
    cases hvisited with
    | skipped r node status calm others dead rest => rw [rest]; exact hlost
    | carried o incoming again r emitted came invoked entered attended tells routed rest =>
      rw [rest]
      exact List.append_ne_nil_of_left_ne_nil hlost _
  · right
    have htarget' : e.target ≠ n.id := fun heq => hfailure (hcalm e (Flow.mem_incoming.2 ⟨he, heq⟩))
    have hsource := h.sources e he (Ledger.lookup_ne_none hfailure)
    have hsource' : e.source ≠ n.id := fun heq => hn (heq ▸ hsource)
    -- The edge was set when its source was visited, and is not set again.
    refine ⟨e, he, ?_, ?_⟩
    · rw [List.map_append, List.mem_append, not_or]
      exact ⟨htarget, by simpa using htarget'⟩
    · rw [hvisited.failureOn_eq valid he hsource']
      exact hfailure

/-- A failure that comes into a node or arises there goes on, unless the node is a handler that absorbs it. -/
private theorem absorbed_or_outstanding (hstable : IsStableOrder env.flow start (done ++ n :: later)) {o : NodeOutcome}
    {incoming : Signal} {again : List Record} {r : Record} {emitted : Bool}
    (entered : o.absorbed = true → after.invoked = (n.id, incoming) :: before.invoked)
    (attended : Attended env n incoming after.invoked again o) (tells : r.Tells n o) (hr : r ∈ after.records)
    (routed : Routed n o (outstanding o incoming) (env.flow.outgoing n.id) before.signals after.signals emitted)
    (hlost : after.unrecovered = before.unrecovered ++ if emitted then [] else (outstanding o incoming).toList)
    (hfailure : incoming.failure? ≠ none ∨ o.failure? ≠ none) :
    after.Absorbed ∨ after.Outstanding env.flow (done ++ [n]) := by
  by_cases habsorbed : o.absorbed = true
  · left
    obtain ⟨htype, hcame, hnone⟩ := attended.absorbed habsorbed
    have hsuccess : r.status = .success := by rw [tells.status, hnone]; rfl
    exact ⟨r, hr, tells.type.trans htype, hsuccess, incoming, by rw [tells.node, entered habsorbed]; simp, hcame⟩
  · right
    -- What is not absorbed goes on, the node's own failure before the one that came in.
    have hout : outstanding o incoming ≠ none := by
      cases hown : o.failure? with
      | some f => simp [outstanding_of_failure hown]
      | none =>
        rw [outstanding_of_success hown, if_neg habsorbed]
        exact hfailure.resolve_right fun h => h hown
    cases emitted with
    | true =>
      obtain ⟨e, he, signal, hsignal, hsame⟩ := routed.carries rfl
      refine .inr ⟨e, (Flow.mem_outgoing.1 he).1, hstable.target_not_mem he, ?_⟩
      rw [Ledger.failureOn_of_lookup hsignal, hsame]
      exact hout
    | false =>
      left
      rw [hlost]
      obtain ⟨f, hf⟩ := Option.ne_none_iff_exists'.1 hout
      rw [hf]
      simp

/-- An error of a visit, or one before it, leaves a failure to be dealt with. -/
private theorem Accounted.held_visited (valid : env.Valid) (hstable : IsStableOrder env.flow start (done ++ n :: later))
    (h : Accounted env done before) (hvisited : Visited env n before after) {r : Record} (hr : r ∈ after.records)
    (herror : r.status = .error) : after.Absorbed ∨ after.Outstanding env.flow (done ++ [n]) := by
  have hn : n.id ∉ done.map (·.id) := hstable.isAvailable.fresh
  have hbefore (hmem : r ∈ before.records) (hcalm : ∀ e ∈ env.flow.incoming n.id, before.failureOn e = none) :
      after.Absorbed ∨ after.Outstanding env.flow (done ++ [n]) :=
    (h.held r hmem herror).imp (h.absorbed_mono hn hvisited) (h.outstanding_mono valid hn hvisited hcalm)
  have hall := hvisited
  cases hvisited with
  | skipped r' node status calm others dead rest =>
    rw [rest] at hr
    rcases List.mem_append.1 hr with hmem | hmem
    · exact hbefore hmem calm
    · rw [List.mem_singleton.1 hmem, status] at herror
      cases herror
  | carried o incoming again r' emitted came invoked entered attended tells routed rest =>
    have hown : r' ∈ after.records := by rw [rest]; simp [Ledger.addRecords]
    have hlost := congrArg Ledger.unrecovered rest
    have hgoesOn := absorbed_or_outstanding hstable entered attended tells hown routed hlost
    -- A failure that came in goes on in any case; without one, no node was tried again and no edge to the node fails.
    by_cases hcalm : incoming.failure? = none
    · rw [rest] at hr
      rcases List.mem_append.1 hr with hmem | hmem
      · exact hbefore hmem (came.1 hcalm)
      · rcases List.mem_append.1 hmem with hmem | hmem
        · obtain ⟨-, hcame, -⟩ := attended.retried r hmem
          rw [hcalm] at hcame
          cases hcame
        · rw [List.mem_singleton.1 hmem, tells.status] at herror
          refine hgoesOn (.inr fun hnone => ?_)
          rw [hnone] at herror
          cases herror
    · exact hgoesOn (.inl hcalm)

/-- As long as no step has failed, there is no failure. -/
private theorem Accounted.calm_visited (valid : env.Valid) (h : Accounted env done before)
    (hvisited : Visited env n before after) (hnone : ∀ r ∈ after.records, r.status ≠ .error) :
    after.unrecovered = [] ∧ ∀ e ∈ env.flow.edges, after.failureOn e = none := by
  have hall := hvisited
  cases hvisited with
  | skipped r node status calm others dead rest =>
    obtain ⟨hlost, hfailure⟩ := h.calm fun r hr => hnone r (hall.mem_records hr)
    refine ⟨by rw [rest]; exact hlost, fun e he => ?_⟩
    by_cases hsource : e.source = n.id
    · exact Ledger.failureOn_of_lookup (dead e (Flow.mem_outgoing.2 ⟨he, hsource⟩))
    · rw [hall.failureOn_eq valid he hsource]
      exact hfailure e he
  | carried o incoming again r emitted came invoked entered attended tells routed rest =>
    obtain ⟨hlost, hfailure⟩ := h.calm fun r hr => hnone r (hall.mem_records hr)
    have hcalm : incoming.failure? = none :=
      came.2 fun e he => hfailure e (Flow.mem_incoming.1 he).1
    have hsuccess := tells.failure?_eq_none (hnone r (by rw [rest]; simp [Ledger.addRecords]))
    have hout : outstanding o incoming = none := by
      rw [outstanding_of_success hsuccess, hcalm, ite_self]
    rw [hout] at routed rest
    refine ⟨by rw [rest, hlost]; simp, fun e he => ?_⟩
    by_cases hsource : e.source = n.id
    · obtain ⟨port, -, hsignal⟩ := routed.own e (Flow.mem_outgoing.2 ⟨he, hsource⟩)
      rw [Ledger.failureOn_of_lookup hsignal]
      exact failure?_emission_eq_none o _ port
    · rw [hall.failureOn_eq valid he hsource]
      exact hfailure e he

/-- The visit of the node that comes next keeps account of all failures. -/
theorem kept_accounted (valid : env.Valid) {order : List Node} (hstable : IsStableOrder env.flow start order) :
    Kept env order (Accounted env) := by
  rintro done n later before after rfl h hvisited
  refine ⟨fun e he hsome => ?_, fun id hsome => ?_, fun r => h.held_visited valid hstable hvisited,
    h.calm_visited valid hvisited⟩
  · rw [List.map_append, List.mem_append]
    by_cases hsource : e.source = n.id
    · exact .inr (by simp [hsource])
    · rw [hvisited.lookup_eq valid he hsource] at hsome
      exact .inl (h.sources e he hsome)
  · rw [List.map_append, List.mem_append]
    by_cases hid : id = n.id
    · exact .inr (by simp [hid])
    · rw [hvisited.invoked_lookup_eq hid] at hsome
      exact .inl (h.entered id hsome)

end

/-! ### The end of a run -/

/-- When all nodes were visited, only an unrecovered failure is still to be dealt with. -/
theorem Accounted.unrecovered_ne_nil {env : Env} (valid : env.Valid) {start : String} {order : List Node}
    (hstable : IsStableOrder env.flow start order) {l : Ledger} (h : Accounted env order l)
    (hout : l.Outstanding env.flow order) : l.unrecovered ≠ [] := by
  rcases hout with hlost | ⟨e, he, htarget, hfailure⟩
  · exact hlost
  · exfalso
    have hsource := h.sources e he (Ledger.lookup_ne_none hfailure)
    obtain ⟨source, hmem, hid⟩ := List.mem_map.1 hsource
    have hreached := (((hstable.mem_iff source).1 hmem).2)
    rw [hid] at hreached
    obtain ⟨-, target, -, hfound, -⟩ := valid.flow.joins he
    obtain ⟨hnode, htarget'⟩ := Flow.mem_of_node?_eq_some hfound
    refine htarget (List.mem_map.2 ⟨target, (hstable.mem_iff target).2 ⟨hnode, ?_⟩, htarget'⟩)
    rw [htarget']
    exact hreached.edge he

/-- The error text of a run that was not cancelled tells of the first failure that is unrecovered. -/
theorem errorText_of_ne_cancelled {s : State} (h : s.status ≠ .cancelled) :
    errorText s = s.unrecovered.head?.map Failure.summary := by
  have hnot : ¬ (s.status == .cancelled) = true := fun heq => h (eq_of_beq heq)
  rw [errorText, if_neg hnot]

/-- A run of a valid flow that was not cancelled ends with an error when a step has failed and no handler has absorbed a
failure, and with success when no step has failed. -/
theorem status_of_steps {engine : Engine} {f : Flow} {r : Request} {report : Report} {t : Trace}
    (hbuiltin : engine.registry = .builtin) (hrun : engine.run f r = .ok report) (htrace : report.trace = .ok t)
    (hfinished : t.status ≠ .cancelled) :
    ∃ s, simulate (r.env engine f) (initialState (r.env engine f) r.openCircuits) = .ok () s ∧
      t = traceOf (r.env engine f) s none ∧
        ((∃ x ∈ t.steps, x.status = .error) → (∀ x ∈ t.steps, ¬ s.ledger.Absorbs x.node x.type x.status) →
          t.status = .error ∧ t.error?.isSome = true) ∧
            ((∀ x ∈ t.steps, x.status ≠ .error) → t.status = .success ∧ t.error? = none) := by
  obtain ⟨hvalid, rfl⟩ := Engine.run_eq_ok_iff.1 hrun
  have valid : (r.env engine f).Valid := ⟨hbuiltin, hvalid⟩
  obtain ⟨s, hs, hend, rfl⟩ := trace_execute
    (meets_simulate valid (fun _ _ hstable => ⟨accounted_start _, kept_accounted valid hstable⟩) _) htrace
  refine ⟨s, hs, rfl, ?_⟩
  obtain ⟨start, order, l, hstable, haccounted, hl⟩ := hend.resolve_left hfinished
  have hstatus : s.status = if l.unrecovered.isEmpty then .success else .error := congrArg Ledger.status hl
  have hlost : s.unrecovered = l.unrecovered := congrArg Ledger.unrecovered hl
  have hrecords : s.records = l.records := congrArg Ledger.records hl
  have herror := errorText_of_ne_cancelled hfinished
  rw [hlost] at herror
  have hsteps : (traceOf (r.env engine f) s none).steps = l.records.map (·.toStep s.documents) := by
    rw [← hrecords]
    rfl
  rw [hsteps]
  constructor
  · rintro ⟨_, hmem, hfailed⟩ hnone
    obtain ⟨x, hx, rfl⟩ := List.mem_map.1 hmem
    have hout : l.unrecovered ≠ [] := by
      refine haccounted.unrecovered_ne_nil valid hstable ((haccounted.held x hx hfailed).resolve_left ?_)
      rintro ⟨y, hy, habsorbs⟩
      refine hnone _ (List.mem_map_of_mem hy) ?_
      rw [hl]
      exact habsorbs
    obtain ⟨failure, others, hcons⟩ := List.exists_cons_of_ne_nil hout
    change s.status = .error ∧ (errorText s).isSome = true
    rw [hstatus, herror, hcons]
    exact ⟨rfl, rfl⟩
  · intro hnone
    have hcalm := (haccounted.calm fun x hx => hnone _ (List.mem_map_of_mem hx)).1
    change s.status = .success ∧ errorText s = none
    rw [hstatus, herror, hcalm]
    exact ⟨rfl, rfl⟩

/-- A call that fails, with nobody to take care of it. -/
def brokenCall : Flow where
  id := "broken"
  name := "Broken call"
  nodes := [Kind.ingress.node "start" [],
    Kind.connector.node "call" [("connectorId", .text "api"), ("endpointId", .text "call"),
      ("failureMode", .text "error"), ("retries", .int 0)]]
  edges := [{ id := "1", source := "start", target := "call" }]
  createdAt := default
  updatedAt := default

/-- A run of the broken call. -/
def brokenRun : Request where
  input := .object []
  execution := "run"

/-- The end of the run of the broken call. -/
def brokenEnd : State :=
  endState (simulate (brokenRun.env {} brokenCall)) (initialState (brokenRun.env {} brokenCall) [])

theorem status_of_brokenCall : ∃ report t, Engine.run {} brokenCall brokenRun = .ok report ∧
    report.trace = .ok t ∧ t.status = .error ∧ t.error?.isSome = true := by
  have hok : isOk (simulate (brokenRun.env {} brokenCall)) (initialState (brokenRun.env {} brokenCall) []) = true := by
    decide +kernel
  have hend : brokenEnd.status ≠ .cancelled ∧ (∃ x ∈ brokenEnd.records, x.status = .error) ∧
      ∀ x ∈ brokenEnd.records, x.type ≠ Kind.errorHandler.name := by
    decide +kernel
  have hs : simulate (brokenRun.env {} brokenCall) (initialState (brokenRun.env {} brokenCall) []) = .ok () brokenEnd :=
    eq_ok_endState hok
  generalize brokenEnd = s at hend hs
  obtain ⟨hfinished, ⟨x, hx, hfailed⟩, hnone⟩ := hend
  have htrace : (execute (brokenRun.env {} brokenCall) brokenRun.openCircuits).trace =
      .ok (traceOf (brokenRun.env {} brokenCall) s none) := trace_execute_of_ok hs
  have hrun : Engine.run {} brokenCall brokenRun =
      .ok (execute (brokenRun.env {} brokenCall) brokenRun.openCircuits) :=
    Engine.run_eq_ok_iff.2 ⟨by decide, rfl⟩
  obtain ⟨s', -, -, herror, -⟩ := status_of_steps rfl hrun htrace hfinished
  refine ⟨_, _, hrun, htrace, herror ⟨_, List.mem_map_of_mem hx, hfailed⟩ fun y hy habsorbs => ?_⟩
  obtain ⟨z, hz, rfl⟩ := List.mem_map.1 hy
  exact hnone z hz habsorbs.1

end IntegrationFlow.Run
