import IntegrationFlow.Proofs.Flow.Prune
import IntegrationFlow.Proofs.Run.Alike

/-!
# What has no influence on a run

Nodes that are not reachable from the ingress are never visited, so they are never invoked, and no edge from them is
ever set (`Pristine`). The edges that they have to other nodes are as good as absent, and the order of the other nodes
does not depend on them (`executionOrder?_prune`). So a run is the same without them, and it does not depend on what
is only shown to the authors of a flow either (`run_eq_of_reachable_core`).
-/

namespace IntegrationFlow.Run

open Simulation Sim

/-! ### The order -/

section

variable {f : Flow} {start : String}

/-- Taking items away does not change the order of the others. -/
private theorem idxOf_filter_le {ids : List String} {p : String → Bool} {a b : String} (ha : p a = true)
    (h : ids.idxOf a ≤ ids.idxOf b) : (ids.filter p).idxOf a ≤ (ids.filter p).idxOf b := by
  induction ids with
  | nil => exact Nat.le_refl _
  | cons id ids ih =>
    by_cases hfirst : id = a
    · rw [hfirst, List.filter_cons_of_pos ha, List.idxOf_cons_self]
      exact Nat.zero_le _
    · have hother : id ≠ b := by
        rintro rfl
        rw [List.idxOf_cons_self, List.idxOf_cons_ne _ hfirst] at h
        omega
      rw [List.idxOf_cons_ne _ hfirst, List.idxOf_cons_ne _ hother] at h
      have hrest := ih (Nat.le_of_succ_le_succ h)
      rw [List.filter_cons]
      split
      · rw [List.idxOf_cons_ne _ hfirst, List.idxOf_cons_ne _ hother]
        exact Nat.succ_le_succ hrest
      · exact hrest

/-- The nodes that may come next are the same without what is not reachable. -/
private theorem isAvailable_prune_iff {placed : List String} {n : Node} :
    IsAvailable (f.prune start) start placed n ↔ IsAvailable f start placed n := by
  constructor
  · rintro ⟨hdeclared, hreached, hfresh, hready⟩
    refine ⟨(Flow.mem_nodes_prune.1 hdeclared).1, Flow.reaches_prune_iff.1 hreached, hfresh, fun e he ht hs => ?_⟩
    exact hready e (Flow.mem_edges_prune.2 ⟨he, hs⟩) ht (Flow.reaches_prune_iff.2 hs)
  · rintro ⟨hdeclared, hreached, hfresh, hready⟩
    refine ⟨Flow.mem_nodes_prune.2 ⟨hdeclared, hreached⟩, Flow.reaches_prune_iff.2 hreached, hfresh,
      fun e he ht hs => ?_⟩
    exact hready e (Flow.mem_edges_prune.1 he).1 ht (Flow.reaches_prune_iff.1 hs)

theorem IsStableOrder.prune {order : List Node} (h : IsStableOrder f start order) :
    IsStableOrder (f.prune start) start order where
  nodup := h.nodup
  mem_iff n := by
    rw [h.mem_iff, Flow.mem_nodes_prune, Flow.reaches_prune_iff, and_assoc, and_self]
  head := h.head
  forward e he hs := h.forward e (Flow.mem_edges_prune.1 he).1 (Flow.reaches_prune_iff.1 hs)
  stable i hi := by
    obtain ⟨hnext, hfirst⟩ := h.stable i hi
    refine ⟨isAvailable_prune_iff.2 hnext, fun n hn => ?_⟩
    rw [Flow.nodeIds_prune]
    refine idxOf_filter_le ?_ (hfirst n (isAvailable_prune_iff.1 hn))
    simpa [Flow.mem_reachable_iff] using hnext.reached

/-- What is not reachable does not change the order of a run. -/
theorem executionOrder?_prune {r : Registry} (valid : f.Valid r) {ingress : Node}
    (hingress : Validator.ingressNodes r f = [ingress]) :
    executionOrder? (f.prune ingress.id) ingress = executionOrder? f ingress := by
  obtain ⟨first, order, hfirst, horder, hstable⟩ := exists_order valid
  obtain rfl : ingress = first := List.singleton_inj.1 (hingress.symm.trans hfirst)
  have valid' := valid.prune hingress
  obtain ⟨first', order', hfirst', horder', hstable'⟩ := exists_order valid'
  obtain rfl : ingress = first' :=
    List.singleton_inj.1 ((Flow.ingressNodes_prune hingress).symm.trans hfirst')
  rw [horder, horder', hstable.prune.unique valid' hstable']

end

/-! ### The visits -/

/-- The nodes that were not visited have set no edges, and were not invoked. -/
structure Pristine (f : Flow) (done : List Node) (l : Ledger) : Prop where
  unset : ∀ e ∈ f.edges, e.source ∉ done.map (·.id) → l.signals.lookup e.id = none
  invoked : ∀ id, l.invoked.lookup id ≠ none → id ∈ done.map (·.id)

theorem pristine_start (f : Flow) : Pristine f [] ⟨.running, [], [], [], []⟩ :=
  ⟨fun _ _ _ => rfl, fun _ h => absurd rfl h⟩

/-- A visit sets edges of the node only, and invokes no other node for the first time. -/
theorem Pristine.visited {env : Env} (valid : env.Valid) {done : List Node} {n : Node} {before after : Ledger}
    (h : Pristine env.flow done before) (hvisited : Visited env n before after) :
    Pristine env.flow (done ++ [n]) after := by
  refine ⟨fun e he hsource => ?_, fun id hid => ?_⟩
  · simp only [List.map_append, List.map_cons, List.map_nil, List.mem_append, List.mem_singleton, not_or] at hsource
    rw [hvisited.lookup_eq valid he hsource.2]
    exact h.unset e he hsource.1
  · simp only [List.map_append, List.map_cons, List.map_nil, List.mem_append, List.mem_singleton]
    by_cases hself : id = n.id
    · exact .inr hself
    · rw [hvisited.invoked_lookup_eq hself] at hid
      exact .inl (h.invoked id hid)

section

variable {f : Flow} {start : String} {done : List Node} {n : Node} {s : State}

/-- No edge from a node that is not reachable is live. -/
private theorem liveEdges_prune (h : Pristine f done s.ledger) (hdone : ∀ m ∈ done, f.Reaches start m.id)
    (hn : f.Reaches start n.id) : liveEdges (f.prune start) s.signals n = liveEdges f s.signals n := by
  unfold liveEdges
  rw [Flow.incoming_prune hn, List.filter_map, List.filter_map, List.filter_filter]
  refine congrArg _ (List.filter_congr fun e he => ?_)
  by_cases hsource : e.source ∈ f.reachable start
  · simp [hsource]
  · have hunset : s.signals.lookup e.id = none := by
      refine h.unset e (Flow.mem_incoming.1 he).1 fun hmem => hsource ?_
      obtain ⟨m, hm, hid⟩ := List.mem_map.1 hmem
      exact Flow.mem_reachable_iff.2 (hid ▸ hdone m hm)
    simp [hsource, hunset, Signal.isLive]

/-- A node that is kept is found in both flows, or in none. -/
private theorem alikeAt_prune {id : String} (h : f.Reaches start id) : AlikeAt f (f.prune start) id := by
  unfold AlikeAt
  rw [Flow.node?_prune h]
  cases f.node? id with
  | none => exact .inl ⟨rfl, rfl⟩
  | some m => exact .inr ⟨m, m, rfl, rfl, .refl m⟩

end

/-- A node that comes next is visited in the same way without what is not reachable. -/
theorem visit_prune {env : Env} {start : String} {done later : List Node} {n n' : Node} {s : State} (hn : n.Alike n')
    (hstable : IsStableOrder env.flow start (done ++ n :: later)) (h : Pristine env.flow done s.ledger) :
    visit (env.over (env.flow.prune start)) n' s = visit env n s := by
  have hreached : env.flow.Reaches start n.id := hstable.isAvailable.reached
  have hdone (m : Node) (hm : m ∈ done) : env.flow.Reaches start m.id :=
    ((hstable.mem_iff m).1 (List.mem_append_left _ hm)).2
  refine visit_over (g := env.flow.prune start) hn ⟨rfl, rfl, rfl⟩ ?_ ?_ fun id hid => alikeAt_prune ?_
  · rw [Flow.outgoing_prune hreached]
    exact List.forall₂_same.2 fun e _ => ⟨rfl, rfl⟩
  · have hlive : liveEdges (env.flow.prune start) s.signals n' = liveEdges env.flow s.signals n := by
      rw [← liveEdges_prune h hdone hreached, liveEdges, liveEdges, hn.id]
    rw [hlive]
    exact List.forall₂_same.2 fun e _ => ⟨rfl, rfl, rfl, rfl⟩
  · rcases hid with rfl | hinvoked
    · exact hreached
    · obtain ⟨m, hm, hid⟩ := List.mem_map.1 (h.invoked id hinvoked)
      exact hid ▸ hdone m hm

/-! ### Whole runs -/

/-- A run is the same without what is not reachable. -/
theorem execute_prune {env : Env} (valid : env.Valid) {ingress : Node}
    (hingress : Validator.ingressNodes env.engine.registry env.flow = [ingress]) (openCircuits : List String) :
    execute (env.over (env.flow.prune ingress.id)) openCircuits = execute env openCircuits := by
  obtain ⟨first, order, hfirst, horder, hstable⟩ := exists_order valid.flow
  obtain rfl : ingress = first := List.singleton_inj.1 (hingress.symm.trans hfirst)
  have horder' : executionOrder? (env.flow.prune ingress.id) ingress = some order :=
    (executionOrder?_prune valid.flow hingress).trans horder
  refine execute_over (g := env.flow.prune ingress.id) rfl (fun _ => orderOf_eq_ok valid.flow hingress horder)
    (fun _ => orderOf_eq_ok (valid.flow.prune hingress) (Flow.ingressNodes_prune hingress) horder') openCircuits ?_
  have hall : List.Forall₂ Node.Alike order order := List.forall₂_same.2 fun n _ => .refl n
  refine visitAll_over (p := fun done s => Pristine env.flow done s.ledger) ?_ ?_ hall (List.nil_append order).symm ?_
  · rintro done n later s s₁ rfl hpristine hvisit
    exact hpristine.visited valid ((meets_visit valid hstable.isAvailable.declared s).of_ok hvisit)
  · rintro done n later n' s rfl hn hpristine
    exact visit_prune hn hstable hpristine
  · rw [(begun_eq env openCircuits).1]
    exact pristine_start env.flow

/-- A run of a valid flow depends neither on what is not reachable nor on what is only shown. -/
theorem run_eq_of_reachable_core {engine : Engine} (hbuiltin : engine.registry = .builtin) {f : Flow}
    (valid : f.Valid .builtin) (r : Request) :
    ∃ report, engine.run f r = .ok report ∧
      (∃ ingress, Validator.ingressNodes .builtin f = [ingress] ∧ (f.prune ingress.id).Valid .builtin ∧
        engine.run (f.prune ingress.id) r = .ok report) ∧
      ∀ g : Flow, g.core = f.core → g.Valid .builtin ∧ engine.run g r = .ok report := by
  obtain ⟨ingress, hingress, -⟩ := valid.exists_ingress
  have hrun {g : Flow} (hg : g.Valid .builtin) :
      engine.run g r = .ok (execute (r.env engine g) r.openCircuits) := by
    obtain ⟨findings, hensure⟩ := Flow.valid_iff_ensureValid.1 hg
    unfold Engine.run
    rw [hbuiltin, hensure]
  refine ⟨_, hrun valid, ⟨ingress, hingress, valid.prune hingress, ?_⟩, fun g hcore => ?_⟩
  · rw [hrun (valid.prune hingress)]
    exact congrArg Except.ok (@execute_prune (r.env engine f)
      ⟨hbuiltin, hbuiltin ▸ valid⟩ ingress (hbuiltin ▸ hingress) r.openCircuits)
  · have hcheck := Flow.check_eq_of_core_eq engine.registry hcore
    refine ⟨?_, (run_eq_of_alike (Flow.alike_of_core_eq hcore) hcheck r).trans (hrun valid)⟩
    rw [hbuiltin] at hcheck
    rw [Flow.Valid, hcheck]
    exact valid

/-- The diamond with one more node, which is declared first. No edge leads to it, and it has an edge to the node in
which the branches meet. -/
def haunted : Flow :=
  { diamond with
    nodes := Kind.transform.node "ghost" [] :: diamond.nodes
    edges := { id := "0", source := "ghost", target := "join" } :: diamond.edges }

/-- The same flow under another name, with another time limit and labels on its nodes. -/
def relabelled : Flow :=
  { haunted with
    name := "Haunted"
    version := "2.0.0"
    config := { haunted.config with timeout := 5 }
    nodes := haunted.nodes.map fun n => { n with data := { n.data with label := "Step" } } }

theorem run_haunted : haunted.Valid .builtin ∧ ∃ report,
    ({} : Engine).run haunted { execution := "run" } = .ok report ∧
      (∃ ingress, Validator.ingressNodes .builtin haunted = [ingress] ∧ (haunted.prune ingress.id).Valid .builtin ∧
        ({} : Engine).run (haunted.prune ingress.id) { execution := "run" } = .ok report) ∧
      relabelled.core = haunted.core ∧ ({} : Engine).run relabelled { execution := "run" } = .ok report := by
  have valid : haunted.Valid .builtin := by decide
  obtain ⟨report, hrun, hpruned, hcore⟩ := @run_eq_of_reachable_core {} rfl haunted valid { execution := "run" }
  exact ⟨valid, report, hrun, hpruned, rfl, (hcore relabelled rfl).2⟩

example : (haunted.prune "start").nodeIds = ["join", "start", "left", "right"] := by
  decide

end IntegrationFlow.Run
