import IntegrationFlow.Proofs.Run.Gate

/-!
# Recovery by a retry

A handler that has tried a node again with success hands the output of that node on without any failure. So a failure
that had come into the node, and would have gone on with the output of its first attempt, goes no further: what the
edges of the handler carry is what the edges of the node would have carried exactly when no failure had come in.
-/

namespace IntegrationFlow.Run

open Simulation Sim

/-- In its visit, which takes a run from one state to another, an error handler has tried another node again, and that
node was successful. -/
structure Recovers (env : Env) (handler origin : Node) (s s' : State) : Prop where
  declared : handler ∈ env.flow.nodes
  kind : handler.type = Kind.errorHandler.name
  other : origin.id ≠ handler.id
  visited : visit env handler s = .ok () s'
  repaired : ∃ r ∈ s'.records.drop s.records.length, r.node = origin.id ∧ r.status = .success

section

variable {env : Env} {handler origin : Node} {s s' : State}

/-- The visit of a handler that recovers a node absorbs what came in: the handler hands no failure on, and leaves
through one output only. The node had an input of its own. -/
private theorem Recovers.routed (valid : env.Valid) (h : Recovers env handler origin s s') :
    ∃ o own emitted, o.exits = .only handledPort ∧ s.invoked.lookup origin.id = some own ∧
      s'.unrecovered = s.unrecovered ∧
        Routed handler o none (env.flow.outgoing handler.id) s.signals s'.signals emitted := by
  obtain ⟨hdeclared, -, hother, hvisit, x, hx, hnode, hsuccess⟩ := h
  have hvisited := (meets_visit valid hdeclared s).of_ok hvisit
  have hinvoked : s'.invoked.lookup origin.id = s.invoked.lookup origin.id := hvisited.invoked_lookup_eq hother
  cases hvisited with
  | skipped r node status calm others dead rest =>
    have hrecords : s'.records = s.records ++ [r] := congrArg Ledger.records rest
    rw [hrecords, List.drop_left, List.mem_singleton] at hx
    rw [hx, node] at hnode
    exact absurd hnode.symm hother
  | carried o incoming again r emitted came invoked entered attended tells routed rest =>
    have hrecords : s'.records = s.records ++ (again ++ [r]) := congrArg Ledger.records rest
    rw [hrecords, List.drop_left] at hx
    have hagain : x ∈ again := by
      rcases List.mem_append.1 hx with hagain | hown
      · exact hagain
      · rw [List.mem_singleton.1 hown, tells.node] at hnode
        exact absurd hnode.symm hother
    -- An attempt that was successful makes the handler absorb what came in, whatever had come into the node.
    obtain ⟨habsorbed, hexits⟩ := attended.repaired x hagain hsuccess
    obtain ⟨-, -, own, hown⟩ := attended.retried x hagain
    have hnone : outstanding o incoming = none := by
      rw [outstanding_of_success (attended.absorbed habsorbed).2.2, if_pos habsorbed]
    rw [hnone] at routed rest
    have hlost : s'.unrecovered = s.unrecovered ++ if emitted then [] else [] := congrArg Ledger.unrecovered rest
    refine ⟨o, own, emitted, hexits, ?_, ?_, routed⟩
    · rw [← hinvoked, ← hnode]
      exact hown
    · rw [hlost]
      simp

/-- What an edge carries that leaves a node through one output only. -/
theorem emission_of_only {o : NodeOutcome} {id : String} (h : o.exits = .only id) (payload : Place)
    (failure? : Option Failure) (port : Port) :
    emission o payload failure? port = if port.id = id then signalAt payload failure? port else .inactive := by
  unfold emission isSelected
  rw [h]
  by_cases hsame : port.id = id
  · simp [hsame]
  · have hbeq : (port.id == id) = false := by simpa using hsame
    simp [hsame, hbeq]

/-- After a recovery, the failures on the edges through which a handler leaves are those that the first attempt of the
node would have handed on, had it been successful, exactly when no failure had come into the node. -/
theorem Recovers.failureOn_eq_iff (valid : env.Valid) (h : Recovers env handler origin s s') :
    ∃ own, s.invoked.lookup origin.id = some own ∧ s'.unrecovered = s.unrecovered ∧
      ∀ e ∈ env.flow.outgoing handler.id, s'.ledger.failureOn e = none ∧
        ∀ port, handler.output? e.sourcePort? = some port → port.id = handledPort →
          s'.signals.lookup e.id = some (signalAt (.output handler.id) none port) ∧
            ∀ first : NodeOutcome, first.failure? = none → first.absorbed = false →
              (s'.ledger.failureOn e = outstanding first own ↔ own.failure? = none) := by
  obtain ⟨o, own, emitted, hexits, hown, hlost, hrouted⟩ := h.routed valid
  refine ⟨own, hown, hlost, fun e he => ?_⟩
  obtain ⟨port, hport, hsignal⟩ := hrouted.own e he
  have hnone : s'.ledger.failureOn e = none := by
    rw [Ledger.failureOn_of_lookup hsignal]
    exact failure?_emission_eq_none o _ port
  refine ⟨hnone, fun port' hport' hhandled => ?_⟩
  obtain rfl : port' = port := Option.some.inj (hport'.symm.trans hport)
  rw [emission_of_only hexits, if_pos hhandled] at hsignal
  refine ⟨hsignal, fun first hsuccess hfirst => ?_⟩
  rw [hnone, outstanding_of_success hsuccess, hfirst]
  exact eq_comm

end

/-! ### A failure that is forgotten -/

/-- A call that fails once. -/
def relaySecond : Node :=
  Kind.connector.node "second" [("connectorId", .text "api"), ("endpointId", .text "second"),
    ("failureMode", .text "error"), ("failAttempts", .int 1), ("retries", .int 0)]

/-- A handler that tries once more. -/
def relayHandler : Node :=
  Kind.errorHandler.node "handler" [("strategy", .text "retry"), ("maxRetries", .int 1), ("backoffMs", .int 0)]

/-- A call that fails hands its failure on as the input of a second call, which a handler has to try again. -/
def relay : Flow where
  id := "relay"
  name := "Relay"
  nodes := [Kind.ingress.node "start" [],
    Kind.connector.node "first" [("connectorId", .text "api"), ("endpointId", .text "first"),
      ("failureMode", .text "error"), ("retries", .int 0)],
    Kind.transform.node "relay" [("transformType", .text "jsonpath"), ("code", .text "$")],
    relaySecond, relayHandler, Kind.serviceBox.node "done" [],
    Kind.transform.node "alert" [("transformType", .text "jsonpath"), ("code", .text "$")]]
  edges := [{ id := "1", source := "start", target := "first" },
    { id := "2", source := "first", target := "relay", sourcePort? := some "error" },
    { id := "3", source := "relay", target := "second" },
    { id := "4", source := "second", target := "handler", sourcePort? := some "error" },
    { id := "5", source := "handler", target := "done", sourcePort? := some "handled" },
    { id := "6", source := "handler", target := "alert", sourcePort? := some "unhandled" }]
  createdAt := default
  updatedAt := default

/-- A run of the relay. -/
def relayEnv : Env :=
  ⟨{}, relay, .object [], "run", false, fun _ => false⟩

theorem valid_relayEnv : relayEnv.Valid :=
  ⟨rfl, by decide⟩

/-- The run of the relay when its handler comes next. -/
def relayState : State :=
  endState (visitAll relayEnv (relay.nodes.take 4)) { initialState relayEnv [] with status := .running }

/-- The run of the relay after the visit of its handler. -/
def relayRecovered : State :=
  endState (visit relayEnv relayHandler) relayState

theorem relay_recovers : Recovers relayEnv relayHandler relaySecond relayState relayRecovered where
  declared := List.getElem_mem (n := 4) (by decide : 4 < relay.nodes.length)
  kind := rfl
  other := by decide
  visited := eq_ok_endState (by decide +kernel)
  repaired := by decide +kernel

theorem failureOn_eq_iff_relay : ∃ own, relayState.invoked.lookup relaySecond.id = some own ∧
    relayRecovered.unrecovered = relayState.unrecovered ∧
      ∀ e ∈ relayEnv.flow.outgoing relayHandler.id, relayRecovered.ledger.failureOn e = none ∧
        ∀ port, relayHandler.output? e.sourcePort? = some port → port.id = handledPort →
          relayRecovered.signals.lookup e.id = some (signalAt (.output relayHandler.id) none port) ∧
            ∀ first : NodeOutcome, first.failure? = none → first.absorbed = false →
              (relayRecovered.ledger.failureOn e = outstanding first own ↔ own.failure? = none) :=
  Recovers.failureOn_eq_iff valid_relayEnv relay_recovers

/-- The failure of the first call had come into the second one, but after the recovery the edge through which the
handler leaves does not carry it, and the run ends with success, though its only handler has never received it. -/
theorem relay_forgets : ∃ own f e, Recovers relayEnv relayHandler relaySecond relayState relayRecovered ∧
    relayState.invoked.lookup relaySecond.id = some own ∧ own.failure? = some f ∧ f.node = "first" ∧
      e ∈ relay.outgoing relayHandler.id ∧ e.sourcePort? = some handledPort ∧
        relayRecovered.ledger.failureOn e ≠ some f ∧
          ((relayRecovered.invoked.lookup relayHandler.id).bind Signal.failure?).map (·.node) = some relaySecond.id ∧
            ∃ s, simulate relayEnv (initialState relayEnv []) = .ok () s ∧
              (traceOf relayEnv s none).status = .success := by
  have hfirst : ((relayState.invoked.lookup relaySecond.id).bind Signal.failure?).map (·.node) = some "first" := by
    decide +kernel
  have hhandled : ∃ e ∈ relay.outgoing relayHandler.id, e.sourcePort? = some handledPort ∧
      relayRecovered.ledger.failureOn e = none := by
    decide +kernel
  have hreceived : ((relayRecovered.invoked.lookup relayHandler.id).bind Signal.failure?).map (·.node) =
      some relaySecond.id := by
    decide +kernel
  have hend : isOk (simulate relayEnv) (initialState relayEnv []) = true ∧
      (endState (simulate relayEnv) (initialState relayEnv [])).status = .success := by
    decide +kernel
  obtain ⟨f, hf, hnode⟩ := Option.map_eq_some_iff.1 hfirst
  obtain ⟨own, hown, hfailure⟩ := Option.bind_eq_some_iff.1 hf
  obtain ⟨e, he, hport, hnone⟩ := hhandled
  obtain ⟨s, hs, hstatus⟩ : ∃ s, simulate relayEnv (initialState relayEnv []) = .ok () s ∧ s.status = .success :=
    ⟨_, eq_ok_endState hend.1, hend.2⟩
  have hlost : relayRecovered.ledger.failureOn e ≠ some f := by
    rw [hnone]
    exact (Option.some_ne_none f).symm
  exact ⟨own, f, e, relay_recovers, hown, hfailure, hnode, he, hport, hlost, hreceived, s, hs, hstatus⟩

end IntegrationFlow.Run
