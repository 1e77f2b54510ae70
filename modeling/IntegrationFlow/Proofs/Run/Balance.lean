import IntegrationFlow.Proofs.Run.Course
import IntegrationFlow.Proofs.Run.Host
import IntegrationFlow.Proofs.Run.Interrupt

/-!
# The balance of a run

No visit leaves a balance, so at the end of a run, whether or not it was cancelled, its time is that of its steps
(`duration_of_run`), and its events tell of its steps and of their retries (`events_of_run`).
-/

namespace IntegrationFlow

namespace Run

open Simulation Sim

theorem steady_transition {env : Env} {ids : List String} (new : RunStatus) :
    Steady env ids (fun _ => transition new) (fun _ => 0) fun _ => 0 := by
  intro s a s' hs
  obtain ⟨hallowed, rfl⟩ := transition_eq_ok_iff.1 hs
  exact ⟨Effect.of_eq rfl rfl rfl rfl id, trivial, transition_eq_ok_iff.2 ⟨hallowed, rfl⟩⟩

theorem steady_finishRun {env : Env} {ids : List String} (finished : Bool) :
    Steady env ids (fun _ => finishRun finished) (fun _ => 0) fun _ => 0 := by
  unfold finishRun
  refine Steady.ite (fun _ => ?_) fun _ => steady_pure rfl rfl trivial
  exact Steady.get_bind (fun _ => rfl) fun _ => steady_transition _

section

variable {env : Env} (valid : env.Valid) {ingress : Node} {order : List Node}

include valid

/-- All visits of a run together leave no balance. -/
theorem effect_visitAll (hnodes : ∀ n ∈ order, n ∈ env.flow.nodes) {s s' : State} {finished : Bool}
    (h : visitAll env order s = .ok finished s') : Effect env (order.map (·.id)) 0 0 s s' := by
  induction order generalizing s with
  | nil =>
    cases h
    exact Effect.refl _
  | cons n later ih =>
    rcases visitAll_cons h with ⟨-, -, rfl⟩ | ⟨-, s₁, hvisit, h⟩
    · exact Effect.of_eq rfl rfl rfl rfl id
    · have hfirst := (interruptible_visit valid (hnodes n List.mem_cons_self) s () s₁ hvisit).1
      have hlater := ih (fun m hm => hnodes m (List.mem_cons_of_mem _ hm)) h
      refine (hfirst.mono ?_).trans (hlater.mono ?_)
      · simp
      · simp

/-- A run that comes to its end leaves no balance. -/
theorem effect_simulate {openCircuits : List String} {s : State}
    (h : simulate env (initialState env openCircuits) = .ok () s) :
    Effect env env.flow.nodeIds 0 0 (begun env openCircuits) s := by
  obtain ⟨ingress, order, hingress, horder, hstable⟩ := exists_order valid.flow
  have hnodes : ∀ n ∈ order, n ∈ env.flow.nodes := fun n hn => ((hstable.mem_iff n).1 hn).1
  rw [simulate_eq valid hingress horder] at h
  obtain ⟨finished, s₁, hvisits, h⟩ := exists_of_bind_eq_ok h
  have heffect : Effect env env.flow.nodeIds 0 0 (begun env openCircuits) s₁ :=
    (effect_visitAll valid hnodes hvisits).mono (List.map_subset _ hnodes)
  exact heffect.trans ((steady_finishRun finished).effect h)

end

/-! ### Time -/

/-- When no duration is negative that replaces a built-in one, no type takes a negative time. -/
theorem ofType_overriding_nonneg {durations : List (String × Int)} (h : ∀ d ∈ durations, 0 ≤ d.2) (type : String) :
    0 ≤ (DurationModel.overriding durations).ofType type := by
  have hbuiltin : ∀ d ∈ builtinDurations, 0 ≤ d.2 := by decide
  have hall : ∀ d ∈ durations ++ builtinDurations, 0 ≤ d.2 := by
    intro d hd
    rcases List.mem_append.1 hd with hd | hd
    · exact h d hd
    · exact hbuiltin d hd
  unfold DurationModel.overriding DurationModel.ofType
  dsimp only
  cases hfound : (durations ++ builtinDurations).lookup type with
  | none => simp
  | some ms =>
    obtain ⟨before, after, heq, -⟩ := List.lookup_eq_some_iff.1 hfound
    exact hall (type, ms) (by rw [heq]; simp)

/-- The time of a run is that of its steps, whether the run was successful, has failed or was cancelled. -/
theorem duration_of_run {engine : Engine} {f : Flow} {r : Request} {report : Report} {t : Trace}
    (hbuiltin : engine.registry = .builtin) (hdurations : ∀ type, 0 ≤ engine.durations.ofType type)
    (hrun : engine.run f r = .ok report) (htrace : report.trace = .ok t) :
    (t.duration : Int) = (t.steps.map (·.duration)).sum := by
  obtain ⟨hvalid, rfl⟩ := Engine.run_eq_ok_iff.1 hrun
  have valid : (r.env engine f).Valid := ⟨hbuiltin, hvalid⟩
  obtain ⟨s, hs, rfl, -⟩ := exists_end_of_trace valid htrace
  obtain ⟨rs, es, hchanges⟩ := effect_simulate valid hs
  obtain ⟨hledger, hclock, -⟩ := begun_eq (r.env engine f) r.openCircuits
  have hrecords : (begun (r.env engine f) r.openCircuits).records = [] := congrArg Ledger.records hledger
  have htime := hchanges.clock hdurations
  have hsteps : (traceOf (r.env engine f) s none).steps.map (·.duration) = rs.map (·.duration) := by
    unfold traceOf
    rw [hchanges.records, hrecords, List.nil_append, List.map_map]
    rfl
  rw [hclock] at htime
  rw [hsteps]
  change (s.clock.now : Int) = _
  omega

theorem duration_of_relayRun : ∃ report t, Engine.run {} relay relayRun = .ok report ∧ report.trace = .ok t ∧
    t.duration = 155 ∧ (t.duration : Int) = (t.steps.map (·.duration)).sum := by
  obtain ⟨report, s, hrun, htrace, hnow⟩ := @exists_trace_of_isOk {} relay relayRun
    (fun s => s.clock.now = 155) valid_relayEnv.flow (by decide +kernel) (by decide +kernel)
  exact ⟨report, _, hrun, htrace, hnow, duration_of_run rfl (@ofType_overriding_nonneg [] (by simp)) hrun htrace⟩

/-! ### Events -/

/-- The node and the status of a step. -/
def Step.notice (x : Step) : Option String × Option String :=
  (some x.node, some x.status.name)

/-- The events of a run, from the first one to the last one. -/
theorem exists_events {engine : Engine} {f : Flow} {r : Request} {report : Report} {t : Trace}
    (hbuiltin : engine.registry = .builtin) (hrun : engine.run f r = .ok report) (htrace : report.trace = .ok t)
    (hobserved : r.observed = true) :
    ∃ middle last, report.events = .runStarted f.id r.execution r.input :: middle ++ [last] ∧
      (∀ e ∈ middle, Tells (r.env engine f) e) ∧
        (middle.filter (·.type == .stepRecorded)).map Event.notice = t.steps.map Step.notice ∧
          middle.countP (·.type == .nodeRetry) = (t.steps.map (·.retryCount)).sum ∧
            last.flow = f.id ∧ last.execution? = some r.execution ∧
              (t.status, last.type) ∈ [(RunStatus.success, EventType.runCompleted), (.error, .runFailed),
                (.cancelled, .runCancelled)] := by
  obtain ⟨hvalid, rfl⟩ := Engine.run_eq_ok_iff.1 hrun
  have valid : (r.env engine f).Valid := ⟨hbuiltin, hvalid⟩
  obtain ⟨s, hs, rfl, hstatus⟩ := exists_end_of_trace valid htrace
  obtain ⟨rs, es, hchanges⟩ := effect_simulate valid hs
  obtain ⟨hledger, -, hevents⟩ := begun_eq (r.env engine f) r.openCircuits
  have hrecords : (begun (r.env engine f) r.openCircuits).records = [] := congrArg Ledger.records hledger
  have hobserved' : (r.env engine f).observed = true := hobserved
  have hsteps : (traceOf (r.env engine f) s none).steps = rs.map (·.toStep s.documents) := by
    unfold traceOf
    rw [hchanges.records, hrecords, List.nil_append]
  -- Between the first event and the last one come those that the visits tell of.
  refine ⟨es, .runFinished f.id r.execution s.status.name (.int s.clock.now)
    (optionalText (traceOf (r.env engine f) s none).error?), ?_, hchanges.told, ?_, ?_, rfl, rfl, ?_⟩
  · unfold execute
    rw [hs]
    dsimp only
    unfold publishEnd publish
    rw [if_pos hobserved']
    refine List.filterMap_append.trans ?_
    change s.events ++ _ = _
    rw [hchanges.events, hevents, if_pos hobserved']
    rfl
  · rw [hchanges.recorded hobserved', hsteps, List.map_map]
    rfl
  · have hretried := hchanges.retried hobserved'
    rw [hsteps, List.map_map]
    change _ = (rs.map (·.retryCount)).sum
    omega
  · change (s.status, EventType.terminal s.status.name) ∈ _
    rcases hstatus with h | h | h
    · rw [h]
      decide
    · rw [h]
      decide
    · rw [h]
      decide

/-- The events of a run tell of its steps in order, of their retries and of the end of the run. From when each of them
is published until it was delivered, the flow is running, whatever others do to the engine in the meantime. -/
theorem events_of_run {engine : Engine} {earlier : List Admission.Act} {s : Admission} {f : Flow} {r : Request}
    {c : Company} {h : Hosted} {t : Trace} (hbuiltin : engine.registry = .builtin)
    (hearlier : ({} : Admission).after earlier = some s) (hhost : engine.host s f r c = .ok (some h))
    (htrace : h.report.trace = .ok t) (hobserved : r.observed = true) :
    (∃ middle last, h.report.events = .runStarted f.id r.execution r.input :: middle ++ [last] ∧
      (∀ e ∈ middle, Tells (r.env engine f) e) ∧
        (middle.filter (·.type == .stepRecorded)).map Event.notice = t.steps.map Step.notice ∧
          middle.countP (·.type == .nodeRetry) = (t.steps.map (·.retryCount)).sum ∧
            last.flow = f.id ∧ last.execution? = some r.execution ∧
              (t.status, last.type) ∈ [(RunStatus.success, EventType.runCompleted), (.error, .runFailed),
                (.cancelled, .runCancelled)]) ∧
      ∀ past e later, h.report.moments = past ++ .published e :: later →
        ∀ acts, c.acts h.admitted.run.run past <+: acts → acts <+: c.acts h.admitted.run.run (past ++ [.published e]) →
          ∃ now, h.admitted.tables.after acts = some now ∧ now.isRunning f.id = true := by
  obtain ⟨hletIn, hrun⟩ := Engine.of_host hhost
  refine ⟨?_, fun past e later _ acts _ hacts => ?_⟩
  · obtain ⟨middle, last, hevents, htells, hrest⟩ := exists_events hbuiltin hrun htrace hobserved
    exact ⟨middle, last, hevents, fun e he => ⟨(htells e he).type, (htells e he).flow, (htells e he).execution⟩, hrest⟩
  · obtain ⟨now, hnow, hrunning, -⟩ := ((Admission.sound_of_after hearlier).begins hletIn).on hacts
    exact ⟨now, hnow, hrunning⟩

/-- A run of the relay whose events are published. -/
def observedRun : Request :=
  { relayRun with observed := true }

/-- Another run of the relay is started as soon as the first event is published. -/
def eager : Company where
  during moments := if moments.length = 1 then [.start "relay"] else []

/-- The flow is still running when the last event is published. -/
theorem events_of_observedRun : ∃ h t middle last, Engine.host {} {} relay observedRun eager = .ok (some h) ∧
    h.report.trace = .ok t ∧ h.report.events = .runStarted "relay" "run" (.object []) :: middle ++ [last] ∧
      (middle.filter (·.type == .stepRecorded)).map Event.notice = t.steps.map Step.notice ∧
        t.steps.length = 8 ∧ middle.countP (·.type == .nodeRetry) = 1 ∧
          ∃ past later now, h.report.moments = past ++ .published last :: later ∧
            h.admitted.tables.after (eager.acts h.admitted.run.run past) = some now ∧ now.isRunning "relay" = true := by
  obtain ⟨h, hhost, hadmitted, hrun⟩ := @Engine.exists_host {} {} Admission.sound_empty relay valid_relayEnv.flow
    observedRun eager ⟨⟨0, "relay", 0, .executing 1⟩, ({} : Admission).start "relay"⟩ rfl
  rw [← hadmitted] at hrun
  obtain ⟨report, s, hrun', htrace, hend⟩ := @exists_trace_of_isOk {} relay (observedRun.among h.admitted eager)
    (fun s => s.records.length = 8 ∧ (s.records.map (·.retryCount)).sum = 1) valid_relayEnv.flow
    (by rw [hadmitted]; decide +kernel) (by rw [hadmitted]; decide +kernel)
  cases hrun.symm.trans hrun'
  obtain ⟨⟨middle, last, hevents, -, hrecorded, hretried, -⟩, hrunning⟩ :=
    @events_of_run {} [] {} relay observedRun eager h _ rfl rfl hhost htrace rfl
  refine ⟨h, _, middle, last, hhost, htrace, hevents, hrecorded, (List.length_map _).trans hend.1, ?_, ?_⟩
  · rw [hretried]
    unfold traceOf
    rw [List.map_map]
    exact hend.2
  · have hlast : last ∈ h.report.events := hevents ▸ List.mem_append_right _ (List.mem_singleton_self last)
    obtain ⟨m, hm, hevent⟩ := List.mem_filterMap.1 hlast
    cases m with
    | suspended => cases hevent
    | published e =>
      cases hevent
      obtain ⟨past, later, hmoments⟩ := List.append_of_mem hm
      obtain ⟨now, hnow, hnow'⟩ := hrunning past last later hmoments _ (List.prefix_refl _)
        (eager.acts_concat _ past _ ▸ List.prefix_append _ _)
      exact ⟨past, later, now, hmoments, hnow, hnow'⟩

end Run

end IntegrationFlow
