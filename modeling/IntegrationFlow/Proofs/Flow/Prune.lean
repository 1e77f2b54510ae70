import IntegrationFlow.Proofs.Editor.Consistent
import IntegrationFlow.Proofs.Flow.Reach

/-!
# Flows without what is never reached

`Flow.prune` keeps the nodes that are reachable from a start, and the edges between them. What is reachable keeps its
outgoing edges (`outgoing_prune`), and of its incoming edges those that come from reachable nodes (`incoming_prune`).
The key fact is that a valid flow stays valid (`Valid.prune`).
-/

namespace IntegrationFlow.Flow

/-- The flow without the nodes that are not reachable from a start, and without all edges at them. -/
def prune (f : Flow) (start : String) : Flow :=
  { f with
    nodes := f.nodes.filter fun n => (f.reachable start).contains n.id
    edges := f.edges.filter fun e => (f.reachable start).contains e.source && (f.reachable start).contains e.target }

section

variable {f : Flow} {start id : String}

@[simp] theorem mem_nodes_prune {n : Node} : n ∈ (f.prune start).nodes ↔ n ∈ f.nodes ∧ f.Reaches start n.id := by
  simp [prune, mem_reachable_iff]

/-- An edge is kept when its source is, for then its target is reachable as well. -/
@[simp] theorem mem_edges_prune {e : Edge} : e ∈ (f.prune start).edges ↔ e ∈ f.edges ∧ f.Reaches start e.source := by
  simp only [prune, List.mem_filter, Bool.and_eq_true, List.contains_iff_mem, mem_reachable_iff]
  exact and_congr_right fun he => ⟨And.left, fun hsource => ⟨hsource, hsource.edge he⟩⟩

theorem nodeIds_prune : (f.prune start).nodeIds = f.nodeIds.filter (f.reachable start).contains := by
  rw [nodeIds, nodeIds, List.filter_map]
  rfl

/-- The same is reachable as before. -/
theorem reaches_prune_iff : (f.prune start).Reaches start id ↔ f.Reaches start id := by
  constructor
  · intro h
    induction h with
    | refl => exact Relation.ReflTransGen.refl
    | tail _ hlast ih =>
      obtain ⟨e, he, rfl, rfl⟩ := hlast
      exact ih.edge (mem_edges_prune.1 he).1
  · intro h
    induction h with
    | refl => exact Relation.ReflTransGen.refl
    | tail hpath hlast ih =>
      obtain ⟨e, he, rfl, rfl⟩ := hlast
      exact ih.edge (mem_edges_prune.2 ⟨he, hpath⟩)

/-- A node that is kept is found. -/
theorem node?_prune (h : f.Reaches start id) : (f.prune start).node? id = f.node? id := by
  have hid : id ∈ f.reachable start := mem_reachable_iff.2 h
  rw [node?, node?, prune, List.find?_filter]
  refine congrArg (List.find? · f.nodes) (funext fun n => ?_)
  by_cases hn : n.id = id
  · simp [hn, hid]
  · simp [hn]

/-- A node that is kept keeps the edges that leave it. -/
theorem outgoing_prune (h : f.Reaches start id) : (f.prune start).outgoing id = f.outgoing id := by
  rw [outgoing, outgoing, prune, List.filter_filter]
  refine List.filter_congr fun e he => ?_
  by_cases hsource : e.source = id
  · have hreached : f.Reaches start e.source := hsource ▸ h
    simp [hsource, mem_reachable_iff.2 h, mem_reachable_iff.2 (hreached.edge he)]
  · simp [hsource]

/-- A node that is kept keeps the edges to it that come from reachable nodes. -/
theorem incoming_prune (h : f.Reaches start id) :
    (f.prune start).incoming id = (f.incoming id).filter fun e => (f.reachable start).contains e.source := by
  rw [incoming, incoming, prune, List.filter_filter, List.filter_filter]
  refine List.filter_congr fun e _ => ?_
  by_cases htarget : e.target = id
  · simp [htarget, mem_reachable_iff.2 h]
  · have hne : (e.target == id) = false := by simpa using htarget
    rw [hne, Bool.false_and, Bool.and_false]

end

/-! ### Validity -/

section

open Validator

variable {r : Registry} {f : Flow} {ingress : Node}

theorem Valid.sound (h : f.Valid r) : f.Sound r :=
  checkStructure_eq_nil_iff.1 h.checkStructure_eq_nil

/-- What makes a flow valid. -/
theorem valid_of_sound (hsound : f.Sound r) (hingress : ingressNodes r f = [ingress])
    (hentry : f.incoming ingress.id = []) (hacyclic : f.Acyclic [])
    (hconfig : ∀ n ∈ f.nodes, ∀ t, r.find? n.type = some t → t.configProblems n.data.config = [])
    (hwired : ∀ n ∈ f.nodes, ∀ t, r.find? n.type = some t → t.isBranch = true → ∀ port ∈ t.branchPorts,
      Validator.isWired f n port = true) : f.Valid r := by
  have hingressNone : ingressFindings r f = [] := by
    rw [ingressFindings, hingress]
    simp [hentry]
  have hcycleNone : cycleFindings f = [] := by
    rw [cycleFindings, closingEdges_eq_nil_iff.2 hacyclic, List.map_nil]
  have hconfigNone : configFindings r f = [] := by
    refine List.flatMap_eq_nil_iff.2 fun n hn => ?_
    cases ht : r.find? n.type with
    | none => rfl
    | some t => exact List.map_eq_nil_iff.2 (hconfig n hn t ht)
  have hbranchNone : branchFindings r f = [] := by
    refine List.flatMap_eq_nil_iff.2 fun n hn => ?_
    cases ht : r.find? n.type with
    | none => rfl
    | some t =>
      dsimp only
      split
      · next hbranch =>
        rw [List.map_eq_nil_iff, List.filter_eq_nil_iff]
        intro port hport
        simp [hwired n hn t ht hbranch port hport]
      · rfl
  intro x hx
  rw [check, checkStructure_eq_nil_iff.2 hsound, hingressNone, hcycleNone, hconfigNone, hbranchNone] at hx
  simp only [List.nil_append, List.append_nil] at hx
  -- What is left are warnings.
  unfold reachabilityFindings at hx
  rw [hingress] at hx
  obtain ⟨n, -, rfl⟩ := List.mem_map.1 hx
  rfl

/-- The only entry point is kept. -/
theorem ingressNodes_prune (hingress : ingressNodes r f = [ingress]) :
    ingressNodes r (f.prune ingress.id) = [ingress] := by
  have hreached : (f.reachable ingress.id).contains ingress.id = true := by
    simpa using f.mem_reachable_self ingress.id
  rw [ingressNodes, prune, List.filter_filter]
  calc f.nodes.filter (fun n => r.isIngress n && (f.reachable ingress.id).contains n.id)
      = (f.nodes.filter r.isIngress).filter fun n => (f.reachable ingress.id).contains n.id := by
        rw [List.filter_filter]
        exact List.filter_congr fun n _ => Bool.and_comm _ _
    _ = [ingress] := by
        rw [← ingressNodes, hingress, List.filter_singleton, hreached, cond_true]

/-- A valid flow stays valid without what is not reachable from its entry point. -/
theorem Valid.prune (h : f.Valid r) (hingress : ingressNodes r f = [ingress]) : (f.prune ingress.id).Valid r := by
  have hnodes : (f.prune ingress.id).nodes.Sublist f.nodes := List.filter_sublist
  have hedges : (f.prune ingress.id).edges.Sublist f.edges := List.filter_sublist
  have hkeeps {id : String} (hid : f.Reaches ingress.id id) : f.Keeps (f.prune ingress.id) id := by
    intro n hn
    exact ⟨n, by rw [node?_prune hid, hn], rfl, rfl⟩
  have hsound : (f.prune ingress.id).Sound r := by
    refine h.sound.of_keeps ((hnodes.map _).nodup h.sound.nodeIds) (fun n hn => h.sound.types n (hnodes.subset hn))
      hedges fun e he => ?_
    obtain ⟨hmem, hsource⟩ := mem_edges_prune.1 he
    exact ⟨hkeeps hsource, hkeeps (hsource.edge hmem)⟩
  refine valid_of_sound hsound (ingressNodes_prune hingress) ?_ ?_ ?_ ?_
  · obtain ⟨n, hn, hentry⟩ := h.exists_ingress
    obtain rfl : ingress = n := List.singleton_inj.1 (hingress.symm.trans hn)
    rw [incoming_prune Relation.ReflTransGen.refl, hentry, List.filter_nil]
  · intro id hcycle
    refine h.acyclic id (Relation.TransGen.mono ?_ _ _ hcycle)
    rintro a b ⟨e, he, hcut, hs, ht, ha, hb⟩
    exact ⟨e, hedges.subset he, hcut, hs, ht, (hnodes.map _).subset ha, (hnodes.map _).subset hb⟩
  · exact fun n hn t ht => h.configProblems_eq_nil (hnodes.subset hn) ht
  · intro n hn t ht hbranch port hport
    have hwired := h.isWired (hnodes.subset hn) ht hbranch hport
    rw [Validator.isWired] at hwired ⊢
    rw [outgoing_prune (mem_nodes_prune.1 hn).2]
    exact hwired

end

end IntegrationFlow.Flow
