import IntegrationFlow.Proofs.NodeType.Setting
import IntegrationFlow.Proofs.Run.Alike

/-!
# Strategies that come to the same

A handler that names no strategy does what the flow says, and one that may not try again at all passes the failure on.
So runs do not change when the strategy of such a handler is spelled out (`run_reconfigure`). The second part compares two
ways to charge the handler's own time: a handler that passes a failure on is charged like every node that did not say how
long it took, and one that has tried again as often as it may charges itself (`retryOrigin_zero`).
-/

namespace IntegrationFlow

/-- The node with some settings changed. -/
def Node.reconfigure (n : Node) (changes : Entries) : Node :=
  { n with data := { n.data with config := n.data.config.merge changes } }

/-- The flow with some settings of the nodes with an id changed. -/
def Flow.reconfigure (f : Flow) (id : String) (changes : Entries) : Flow :=
  { f with nodes := f.nodes.map fun n => if n.id = id then n.reconfigure changes else n }

namespace Run

open Simulation Sim

variable {env : Env} {n : Node} {c : ErrorHandlerConfig}

/-! ### What a handler does -/

/-- An attempt depends on how long the handler waits, and not on its other settings. -/
private theorem attempts_of_backoff_eq (c c' : ErrorHandlerConfig) (hstrategy : c'.backoffStrategy = c.backoffStrategy)
    (hms : c'.backoffMs = c.backoffMs) (origin : Node) (base : Int) (remaining done waited : Nat) (last : Failure) :
    Retrying.attempts ⟨n, c', origin, base⟩ env remaining done waited last =
      Retrying.attempts ⟨n, c, origin, base⟩ env remaining done waited last := by
  induction remaining generalizing done waited last with
  | zero => rfl
  | succ remaining ih =>
    simp only [Retrying.attempts, hstrategy, hms, ih]
    rfl

/-- A handler whose strategy is spelled out does the same. -/
theorem handle_withStrategy (hnone : c.strategy = none) :
    handle env n (c.withStrategy env.flow.config.errorHandling (some env.flow.config.retries)) = handle env n c := by
  have hspelled : strategyOf env.flow.config (c.withStrategy env.flow.config.errorHandling
      (some env.flow.config.retries)) = strategyOf env.flow.config c := by
    rw [strategyOf, strategyOf, hnone, ErrorHandlerConfig.withStrategy]
    cases env.flow.config.errorHandling <;> rfl
  funext p v incoming
  unfold handle
  rw [hspelled]
  cases incoming.failure? with
  | none => rfl
  | some f =>
    dsimp only [retryOrigin]
    simp only [attempts_of_backoff_eq c (c.withStrategy _ _) rfl rfl]
    rfl

/-- To try again no time at all is to pass the failure on. The handler is charged the same, though it charges itself. -/
theorem retryOrigin_zero (f : Failure) :
    (retryOrigin env n c f 0 >>= finishTiming env n) = finishTiming env n (passOn f) := by
  funext s
  cases htime : env.engine.durations.ofNode n with
  | error m =>
    simp only [retryOrigin, finishTiming, passOn, durationOf, htime]
    rfl
  | ok base =>
    have hduration : durationOf env n s = .ok base s := by
      unfold durationOf
      rw [htime]
      rfl
    have hcharged : finishTiming env n (passOn f) s =
        .ok { passOn f with duration? := some base } { s with clock := s.clock.advance base } :=
      bind_eq_of_ok _ hduration
    have hpassed (h : retryOrigin env n c f 0 s = .ok (passOn f) s) :
        (retryOrigin env n c f 0 >>= finishTiming env n) s = finishTiming env n (passOn f) s :=
      bind_eq_of_ok _ h
    cases horigin : env.flow.node? f.node with
    | none =>
      refine hpassed ?_
      unfold retryOrigin
      rw [bind_eq_of_ok _ hduration, horigin]
      rfl
    | some origin =>
      by_cases hnever : (s.invoked.lookup origin.id).isNone = true
      · refine hpassed ?_
        unfold retryOrigin
        rw [bind_eq_of_ok _ hduration, horigin]
        exact congrFun (if_pos hnever) s
      -- A handler with no attempts charges its own time itself, and is not charged with it again.
      · have hretried : retryOrigin env n c f 0 s =
            .ok { passOn f with duration? := some (base + (0 : Nat)) } { s with clock := s.clock.advance base } := by
          unfold retryOrigin
          rw [bind_eq_of_ok _ hduration, horigin]
          exact congrFun (if_neg hnever) s
        rw [bind_eq_of_ok _ hretried, hcharged, Nat.cast_zero, Int.add_zero]
        rfl

/-- Settings with which a handler does the same, and takes the same time. -/
def SameEffect (env : Env) (n : Node) (c c' : ErrorHandlerConfig) : Prop :=
  ∀ b input incoming,
    (handle env n c' b input incoming >>= finishTiming env n) = handle env n c b input incoming >>= finishTiming env n

/-- It makes no difference that a strategy is spelled out. -/
theorem sameEffect_of_none (hnone : c.strategy = none) :
    SameEffect env n c (c.withStrategy env.flow.config.errorHandling (some env.flow.config.retries)) := by
  intro b input incoming
  rw [handle_withStrategy hnone]

/-- It makes no difference whether a handler may try again no time, or passes failures on. -/
theorem sameEffect_of_retry (hretry : c.strategy = some Strategy.retry.name) (hzero : c.maxRetries = 0) :
    SameEffect env n c (c.withStrategy .propagate none) := by
  intro b input incoming
  have hbefore : strategyOf env.flow.config c = (Strategy.retry.name, 0) := by
    rw [strategyOf, hretry, hzero]
    rfl
  unfold handle
  rw [hbefore]
  cases incoming.failure? with
  | none => rfl
  | some f => exact (retryOrigin_zero f).symm

/-! ### Runs -/

section

variable {g : Flow} {n' : Node} {c' : ErrorHandlerConfig}

/-- Handlers whose settings have the same effect do the same. To try a handler again is to hand its input on, whatever
its settings are. -/
theorem matches_of_sameEffect (hframe : n.SameFrame n') (hsame : SameDefaults env.flow g)
    (hduration : durationOf (env.over g) n' = durationOf env n)
    (hc : ∀ s, semanticsOf env n s = .ok (.builtin (.errorHandler c)) s)
    (hc' : ∀ s, semanticsOf (env.over g) n' s = .ok (.builtin (.errorHandler c')) s) (h : SameEffect env n c c') :
    Matches env g n n' where
  toSameFrame := hframe
  duration := hduration
  again := by
    funext p s
    unfold reinvoke
    rw [hframe.id]
    refine bind_eq_bind rfl fun input s₁ _ => ?_
    rw [bind_eq_of_ok _ (hc' s₁), bind_eq_of_ok _ (hc s₁)]
    exact bind_eq_bind rfl fun o s₂ _ => congrFun (finishTiming_of_durationOf_eq hduration o) s₂
  invoke := by
    intro incoming s horigin
    unfold Run.invoke
    rw [hframe.id]
    refine bind_eq_bind rfl fun input s₁ hread => ?_
    have hinvoked : s₁.invoked = s.invoked := congrArg Ledger.invoked ((quiet_read _ s).of_ok hread).1
    rw [bind_eq_of_ok _ (hc' s₁), bind_eq_of_ok _ (hc s₁)]
    refine Eq.trans ?_ (congrFun (h _ input incoming) s₁)
    exact bind_eq_bind (handle_over hframe hduration hsame c' _ input incoming (hinvoked ▸ horigin)) fun o s₂ _ =>
      congrFun (finishTiming_of_durationOf_eq hduration o) s₂

end

section

variable {f : Flow} (valid : f.Valid .builtin)
  (hn : n ∈ f.nodes) (htype : n.type = Kind.errorHandler.name)
  (hread : Kind.errorHandler.read n.data.config = .fits (.errorHandler c))

include valid hn htype hread

/-- Nothing is wrong with the configurations when a handler is given another strategy. -/
private theorem configProblems_reconfigure (strategy : Strategy) (retries? : Option Nat) :
    ∀ m ∈ (f.reconfigure n.id (ErrorHandlerConfig.changes strategy retries?)).nodes, ∀ t,
      Registry.builtin.find? m.type = some t → t.configProblems m.data.config = [] := by
  intro _ hm' t ht
  obtain ⟨m, hm, rfl⟩ := List.mem_map.1 hm'
  by_cases hid : m.id = n.id
  · obtain rfl := valid.eq_of_id_eq hm hn hid
    have hfind : Registry.builtin.find? m.type = some Kind.errorHandler.nodeType := by
      rw [htype]
      rfl
    rw [if_pos rfl] at ht ⊢
    obtain rfl := Option.some.inj (hfind.symm.trans ht)
    exact ErrorHandlerConfig.configProblems_merge (valid.configProblems_eq_nil hn hfind) hread strategy retries?
  · rw [if_neg hid] at ht ⊢
    exact valid.configProblems_eq_nil hm ht

/-- An engine answers a flow in the same way when a handler is given a strategy with the same effect. -/
theorem run_reconfigure {engine : Engine} (hbuiltin : engine.registry = .builtin) {strategy : Strategy}
    {retries? : Option Nat}
    (heffect : ∀ env : Env, env.flow = f → SameEffect env n c (c.withStrategy strategy retries?)) (r : Request) :
    engine.run (f.reconfigure n.id (ErrorHandlerConfig.changes strategy retries?)) r = engine.run f r := by
  have hfind : Registry.builtin.find? n.type = some Kind.errorHandler.nodeType := by
    rw [htype]
    rfl
  have hform := ErrorHandlerConfig.typeProblems_of_configProblems (valid.configProblems_eq_nil hn hfind)
  have hframe (m : Node) : m.SameFrame
      (if m.id = n.id then m.reconfigure (ErrorHandlerConfig.changes strategy retries?) else m) := by
    split
    · exact ⟨rfl, rfl, rfl, rfl⟩
    · exact .refl m
  have hedges : List.Forall₂ (Edge.Alike f) f.edges f.edges :=
    List.forall₂_same.2 fun e _ => Edge.alike_of_ports_eq rfl rfl rfl rfl rfl rfl
  have hsame : SameDefaults f (f.reconfigure n.id (ErrorHandlerConfig.changes strategy retries?)) := ⟨rfl, rfl, rfl⟩
  refine run_eq_of_matches hsame.id (fun env hengine hflow => ?_) hedges ?_ r
  · -- Only the handler is another node than before.
    unfold Flow.reconfigure
    rw [List.forall₂_map_right_iff, List.forall₂_same]
    intro m hm
    by_cases hid : m.id = n.id
    · obtain rfl := valid.eq_of_id_eq hm hn hid
      rw [if_pos rfl]
      have hframe : m.SameFrame (m.reconfigure (ErrorHandlerConfig.changes strategy retries?)) := ⟨rfl, rfl, rfl, rfl⟩
      have hfind' : env.engine.registry.find? m.type = some Kind.errorHandler.nodeType := by
        rw [hengine, hbuiltin, hfind]
      refine matches_of_sameEffect hframe (hflow ▸ hsame) ?_ (semanticsOf_eq_ok hfind' hread)
        (semanticsOf_eq_ok hfind' (ErrorHandlerConfig.read_merge hform hread strategy retries?)) (heffect env hflow)
      have hlatency : Entries.field? "simulatedLatencyMs" (ErrorHandlerConfig.changes strategy retries?) = none := by
        cases retries? <;> rfl
      unfold durationOf DurationModel.ofNode Node.reconfigure
      rw [Entries.field?_merge (ErrorHandlerConfig.distinct_changes strategy retries?), hlatency, Option.none_or]
      rfl
    · rw [if_neg hid]
      exact matches_of_alike (.refl m) (hflow ▸ hsame)
  · rw [hbuiltin]
    refine Validator.check_eq_of_sameFrame .builtin ⟨?_, hedges⟩ ?_ fun _ _ _ => rfl
    · exact List.forall₂_map_right_iff.2 (List.forall₂_same.2 fun m _ => hframe m)
    · rw [Validator.configFindings_eq_nil fun m hm t => valid.configProblems_eq_nil hm,
        Validator.configFindings_eq_nil (configProblems_reconfigure valid hn htype hread strategy retries?)]

/-- A run is the same when a handler that names no strategy is told to do what the flow says, as often as the flow says;
and when a handler that is to try again no time is told to pass failures on. -/
theorem report_of_strategies {engine : Engine} (hbuiltin : engine.registry = .builtin) (r : Request) :
    ∃ report, engine.run f r = .ok report ∧
      (c.strategy = none →
        engine.run (f.reconfigure n.id
          (ErrorHandlerConfig.changes f.config.errorHandling (some f.config.retries))) r = .ok report) ∧
      (c.strategy = some Strategy.retry.name → c.maxRetries = 0 →
        engine.run (f.reconfigure n.id (ErrorHandlerConfig.changes .propagate none)) r = .ok report) := by
  obtain ⟨report, hrun⟩ : ∃ report, engine.run f r = .ok report := by
    obtain ⟨findings, hensure⟩ := Flow.valid_iff_ensureValid.1 valid
    unfold Engine.run
    rw [hbuiltin, hensure]
    exact ⟨_, rfl⟩
  refine ⟨report, hrun, fun hnone => ?_, fun hretry hzero => ?_⟩
  · refine (run_reconfigure valid hn htype hread hbuiltin ?_ r).trans hrun
    rintro env rfl
    exact sameEffect_of_none hnone
  · refine (run_reconfigure valid hn htype hread hbuiltin ?_ r).trans hrun
    exact fun env _ => sameEffect_of_retry hretry hzero

end

/-- A call that fails, and a handler with some settings behind it. -/
def handledCall (settings : List (String × Value)) : Flow where
  id := "handled"
  name := "Handled call"
  nodes := [Kind.ingress.node "start" [],
    Kind.connector.node "call" [("connectorId", .text "api"), ("endpointId", .text "call"),
      ("failureMode", .text "error"), ("retries", .int 0)],
    Kind.errorHandler.node "handler" settings, Kind.serviceBox.node "done" [],
    Kind.transform.node "alert" [("transformType", .text "jsonpath"), ("code", .text "$")]]
  edges := [{ id := "1", source := "start", target := "call" },
    { id := "2", source := "call", target := "handler", sourcePort? := some "error" },
    { id := "3", source := "handler", target := "done", sourcePort? := some "handled" },
    { id := "4", source := "handler", target := "alert", sourcePort? := some "unhandled" }]
  config := { retries := 1, errorHandling := .retry }
  createdAt := default
  updatedAt := default

/-- The handler names no strategy, or it is to try again no time. -/
theorem report_of_handledCall :
    (∃ report, Engine.run {} (handledCall [("strategy", .null)]) { execution := "run" } = .ok report ∧
      Engine.run {} ((handledCall [("strategy", .null)]).reconfigure "handler"
        (ErrorHandlerConfig.changes .retry (some 1))) { execution := "run" } = .ok report) ∧
    ∃ report, Engine.run {} (handledCall [("maxRetries", .int 0)]) { execution := "run" } = .ok report ∧
      Engine.run {} ((handledCall [("maxRetries", .int 0)]).reconfigure "handler"
        (ErrorHandlerConfig.changes .propagate none)) { execution := "run" } = .ok report := by
  have hhandler (settings : List (String × Value)) :
      Kind.errorHandler.node "handler" settings ∈ (handledCall settings).nodes :=
    List.mem_cons_of_mem _ (List.mem_cons_of_mem _ List.mem_cons_self)
  constructor
  · obtain ⟨report, hrun, hnone, -⟩ := report_of_strategies (f := handledCall [("strategy", .null)])
      (c := { strategy := none }) (by decide) (hhandler _) rfl rfl (show Engine.registry {} = .builtin from rfl) { execution := "run" }
    exact ⟨report, hrun, hnone rfl⟩
  · obtain ⟨report, hrun, -, hzero⟩ := report_of_strategies (f := handledCall [("maxRetries", .int 0)])
      (c := { maxRetries := 0 }) (by decide) (hhandler _) rfl rfl (show Engine.registry {} = .builtin from rfl) { execution := "run" }
    exact ⟨report, hrun, hzero rfl rfl⟩

end Run

end IntegrationFlow
