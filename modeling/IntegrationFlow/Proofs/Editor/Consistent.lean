import IntegrationFlow.Editor.Edit
import IntegrationFlow.Proofs.Flow.Valid
import IntegrationFlow.Proofs.NodeType.Check

/-!
# Consistent flows

A flow is `Consistent` when the checks of its structure find nothing, at most one node is an entry point and no edge
leads there, and the configurations of built-in nodes have values of the right types. What an edge means depends only on
the ports of the nodes at its ends, so a flow stays sound as long as these are kept (`Sound.of_keeps`). There is one
lemma for each way in which an editor changes a flow.
-/

namespace IntegrationFlow

namespace Flow

open Validator

/-- What the checks of the structure stand for. -/
structure Sound (r : Registry) (f : Flow) : Prop where
  nodeIds : f.nodeIds.Nodup
  types : ∀ n ∈ f.nodes, r.contains n.type = true
  joins : ∀ e ∈ f.edges, ∃ source target, Joins f e source target
  edgeIds : f.edgeIds.Nodup
  keys : (f.edges.map f.edgeKey).Nodup

/-- The checks of the structure find nothing exactly when the flow is sound. -/
theorem checkStructure_eq_nil_iff {r : Registry} {f : Flow} : checkStructure r f = [] ↔ f.Sound r := by
  rw [checkStructure, List.append_eq_nil_iff, nodeFindings_eq_nil_iff, edgeFindings_eq_nil_iff]
  constructor
  · rintro ⟨⟨-, hids, htypes⟩, hedges, hedgeIds, hkeys⟩
    exact ⟨hids, htypes, fun e he => (hedges e he).2, hedgeIds, hkeys⟩
  · intro h
    exact ⟨⟨by simp, h.nodeIds, h.types⟩, fun e he => ⟨⟨by simp, rfl⟩, h.joins e he⟩, h.edgeIds, h.keys⟩

/-- The node with an id in one flow is in another one as well, with the same ports. -/
def Keeps (f g : Flow) (id : String) : Prop :=
  ∀ n, f.node? id = some n →
    ∃ m, g.node? id = some m ∧ m.data.inputs = n.data.inputs ∧ m.data.outputs = n.data.outputs

/-- An edge between nodes that are kept means the same connection. -/
private theorem joins_of_keeps {f g : Flow} {e : Edge} {source target : Node} (h : Joins f e source target)
    (hsource : f.Keeps g e.source) (htarget : f.Keeps g e.target) :
    (∃ source target, Joins g e source target) ∧ g.edgeKey e = f.edgeKey e := by
  obtain ⟨hs, ht, hports⟩ := h
  obtain ⟨s, hs', -, hout⟩ := hsource source hs
  obtain ⟨t, ht', hin, -⟩ := htarget target ht
  have houtput : s.output? e.sourcePort? = source.output? e.sourcePort? := by rw [Node.output?, Node.output?, hout]
  have hinput : t.input? e.targetPort? = target.input? e.targetPort? := by rw [Node.input?, Node.input?, hin]
  refine ⟨⟨s, t, hs', ht', ?_⟩, ?_⟩
  · rw [portFindings_eq_nil_iff] at hports ⊢
    rw [houtput, hinput]
    exact hports
  · simp only [edgeKey, sourcePort?, targetPort?, hs, ht, hs', ht', Option.bind_some, houtput, hinput]

/-- A flow with some of the edges of a sound flow is sound when the nodes at their ends are kept. -/
theorem Sound.of_keeps {r : Registry} {f g : Flow} (h : f.Sound r) (hnodeIds : g.nodeIds.Nodup)
    (htypes : ∀ n ∈ g.nodes, r.contains n.type = true) (hedges : g.edges.Sublist f.edges)
    (hkeeps : ∀ e ∈ g.edges, f.Keeps g e.source ∧ f.Keeps g e.target) : g.Sound r := by
  have hjoins (e : Edge) (he : e ∈ g.edges) :
      (∃ source target, Joins g e source target) ∧ g.edgeKey e = f.edgeKey e := by
    obtain ⟨source, target, hjoins⟩ := h.joins e (hedges.subset he)
    exact joins_of_keeps hjoins (hkeeps e he).1 (hkeeps e he).2
  refine ⟨hnodeIds, htypes, fun e he => (hjoins e he).1, (hedges.map _).nodup h.edgeIds, ?_⟩
  rw [List.map_congr_left fun e he => (hjoins e he).2]
  exact (hedges.map _).nodup h.keys

/-- In a sound flow a node is found by its id. -/
theorem Sound.node?_eq_some {r : Registry} {f : Flow} (h : f.Sound r) {n : Node} (hn : n ∈ f.nodes) :
    f.node? n.id = some n := by
  cases hfind : f.node? n.id with
  | none => exact absurd (List.mem_map_of_mem hn) (node?_eq_none_iff.1 hfind)
  | some m =>
    obtain ⟨hm, hid⟩ := mem_of_node?_eq_some hfind
    rw [List.inj_on_of_nodup_map h.nodeIds hm hn hid]

end Flow

namespace Editor

open IntegrationFlow.Flow

private theorem find?_eq_of_forall_mem {α : Type} {p q : α → Bool} {as : List α} (h : ∀ a ∈ as, p a = q a) :
    as.find? p = as.find? q := by
  induction as with
  | nil => rfl
  | cons a as ih =>
    rw [List.find?_cons, List.find?_cons, h a List.mem_cons_self, ih fun b hb => h b (List.mem_cons_of_mem _ hb)]

/-- What holds of every flow in an editor. -/
structure Consistent (r : Registry) (f : Flow) : Prop where
  checked : Validator.checkStructure r f = []
  /-- At most one node is an entry point. -/
  single : (Validator.ingressNodes r f).length ≤ 1
  /-- No edge leads to it. -/
  entry : ∀ n ∈ Validator.ingressNodes r f, f.incoming n.id = []
  /-- The configurations of built-in nodes have values of the right types. -/
  typed : r = .builtin → ∀ n ∈ f.nodes, ∀ t, r.find? n.type = some t → t.typeProblems n.data.config = []

section

variable {r : Registry} {f : Flow}

/-- The structure of a consistent flow is sound. -/
theorem Consistent.sound (h : Consistent r f) : f.Sound r :=
  checkStructure_eq_nil_iff.1 h.checked

/-- A flow without nodes and edges is consistent. -/
theorem consistent_of_empty (hnodes : f.nodes = []) (hedges : f.edges = []) : Consistent r f where
  checked := by simp [Validator.checkStructure, Validator.nodeFindings, Validator.edgeFindings, hnodes, hedges]
  single := by simp [Validator.ingressNodes, hnodes]
  entry := by simp [Validator.ingressNodes, hnodes]
  typed := by simp [hnodes]

/-- Only the nodes and the edges of a flow matter. -/
theorem Consistent.congr {g : Flow} (h : Consistent r f) (hnodes : g.nodes = f.nodes) (hedges : g.edges = f.edges) :
    Consistent r g := by
  have hingress : Validator.ingressNodes r g = Validator.ingressNodes r f := by
    rw [Validator.ingressNodes, Validator.ingressNodes, hnodes]
  have hkeeps (id : String) : f.Keeps g id := by
    intro n hn
    refine ⟨n, ?_, rfl, rfl⟩
    rw [node?, hnodes]
    exact hn
  refine ⟨checkStructure_eq_nil_iff.2 (h.sound.of_keeps ?_ ?_ ?_ fun e _ => ⟨hkeeps _, hkeeps _⟩), ?_, ?_, ?_⟩
  · rw [nodeIds, hnodes]
    exact h.sound.nodeIds
  · rw [hnodes]
    exact h.sound.types
  · rw [hedges]
  · rw [hingress]
    exact h.single
  · rw [hingress]
    intro n hn
    rw [incoming, hedges]
    exact h.entry n hn
  · rw [hnodes]
    exact h.typed

/-! ### Nodes -/

/-- A flow stays consistent when it gets a node with a new id. -/
theorem Consistent.withNode (h : Consistent r f) {n : Node} (hid : n.id ∉ f.nodeIds)
    (htype : r.contains n.type = true) (hsingle : r.isIngress n = true → Validator.ingressNodes r f = [])
    (htyped : r = .builtin → ∀ t, r.find? n.type = some t → t.typeProblems n.data.config = []) :
    Consistent r (withNode f n) := by
  have hnodes : (Editor.withNode f n).nodes = f.nodes ++ [n] := rfl
  have hkeeps (id : String) : f.Keeps (Editor.withNode f n) id := by
    intro m hm
    refine ⟨m, ?_, rfl, rfl⟩
    rw [node?, hnodes, List.find?_append, ← node?, hm, Option.some_or]
  have hingress : Validator.ingressNodes r (Editor.withNode f n) =
      Validator.ingressNodes r f ++ if r.isIngress n then [n] else [] := by
    rw [Validator.ingressNodes, hnodes, List.filter_append, List.filter_singleton, Bool.cond_eq_ite,
      Validator.ingressNodes]
  refine ⟨checkStructure_eq_nil_iff.2 (h.sound.of_keeps ?_ ?_ (List.Sublist.refl _)
    fun e _ => ⟨hkeeps _, hkeeps _⟩), ?_, ?_, ?_⟩
  · rw [nodeIds, hnodes, List.map_append, List.nodup_append]
    refine ⟨h.sound.nodeIds, by simp, fun a ha b hb heq => ?_⟩
    simp only [List.map_cons, List.map_nil, List.mem_singleton] at hb
    rw [heq, hb] at ha
    exact hid ha
  · rw [hnodes, List.forall_mem_append]
    exact ⟨h.sound.types, by simpa using htype⟩
  · rw [hingress]
    split
    · next hn => simp [hsingle hn]
    · simpa using h.single
  · rw [hingress]
    intro m hm
    rcases List.mem_append.1 hm with hm | hm
    · exact h.entry m hm
    · -- The new node has an id that no edge can name.
      split at hm
      · rw [List.mem_singleton.1 hm]
        refine List.filter_eq_nil_iff.2 fun e he htarget => hid ?_
        obtain ⟨-, target, -, hfound, -⟩ := h.sound.joins e he
        obtain ⟨hmem, hname⟩ := mem_of_node?_eq_some hfound
        rw [← eq_of_beq htarget, ← hname]
        exact List.mem_map_of_mem hmem
      · simp at hm
  · intro hbuiltin
    rw [hnodes, List.forall_mem_append]
    exact ⟨h.typed hbuiltin, by simpa using htyped hbuiltin⟩

/-- A flow stays consistent when it loses nodes, with the edges at them, and perhaps further edges. -/
theorem Consistent.filter (h : Consistent r f) (keepsNode : Node → Bool) (keepsEdge : Edge → Bool)
    (hends : ∀ e ∈ f.edges, keepsEdge e = true →
      ∀ n ∈ f.nodes, n.id = e.source ∨ n.id = e.target → keepsNode n = true) :
    Consistent r { f with nodes := f.nodes.filter keepsNode, edges := f.edges.filter keepsEdge } := by
  have hnodes : (f.nodes.filter keepsNode).Sublist f.nodes := List.filter_sublist
  have hedges : (f.edges.filter keepsEdge).Sublist f.edges := List.filter_sublist
  have hingress : (Validator.ingressNodes r
      { f with nodes := f.nodes.filter keepsNode, edges := f.edges.filter keepsEdge }).Sublist
        (Validator.ingressNodes r f) := hnodes.filter _
  -- The ends of an edge that stays are still found first.
  have hkeeps (id : String) (hid : ∀ n ∈ f.nodes, n.id = id → keepsNode n = true) :
      f.Keeps { f with nodes := f.nodes.filter keepsNode, edges := f.edges.filter keepsEdge } id := by
    intro n hn
    refine ⟨n, ?_, rfl, rfl⟩
    rw [node?, List.find?_filter, ← hn, node?]
    refine find?_eq_of_forall_mem fun m hm => ?_
    by_cases hsame : m.id = id
    · simp [hsame, hid m hm hsame]
    · simp [hsame]
  refine ⟨checkStructure_eq_nil_iff.2 (h.sound.of_keeps ((hnodes.map _).nodup h.sound.nodeIds) ?_ hedges ?_), ?_, ?_, ?_⟩
  · exact fun n hn => h.sound.types n (hnodes.subset hn)
  · intro e he
    obtain ⟨hmem, hkept⟩ := List.mem_filter.1 he
    exact ⟨hkeeps _ fun n hn hid => hends e hmem hkept n hn (.inl hid),
      hkeeps _ fun n hn hid => hends e hmem hkept n hn (.inr hid)⟩
  · exact hingress.length_le.trans h.single
  · intro n hn
    have hnone := h.entry n (hingress.subset hn)
    rw [incoming, List.filter_eq_nil_iff] at hnone ⊢
    exact fun e he => hnone e (hedges.subset he)
  · exact fun hbuiltin n hn => h.typed hbuiltin n (hnodes.subset hn)

/-- A flow stays consistent when its nodes are replaced by others that differ from them in nothing that an edge could
refer to. -/
private theorem Consistent.mapNodes (h : Consistent r f) {g : Node → Node} (hid : ∀ n ∈ f.nodes, (g n).id = n.id)
    (htype : ∀ n ∈ f.nodes, (g n).type = n.type)
    (hports : ∀ n ∈ f.nodes, (g n).data.inputs = n.data.inputs ∧ (g n).data.outputs = n.data.outputs)
    (htyped : r = .builtin → ∀ n ∈ f.nodes, ∀ t, r.find? n.type = some t → t.typeProblems (g n).data.config = []) :
    Consistent r { f with nodes := f.nodes.map g } := by
  have hids : (f.nodes.map g).map (·.id) = f.nodeIds := by
    rw [List.map_map]
    exact List.map_congr_left hid
  have hingress : Validator.ingressNodes r { f with nodes := f.nodes.map g } = (Validator.ingressNodes r f).map g := by
    rw [Validator.ingressNodes, List.filter_map, Validator.ingressNodes]
    refine congrArg (List.map g) (List.filter_congr fun n hn => ?_)
    simp only [Function.comp_apply, Registry.isIngress, htype n hn]
  -- A node is still found under its id, for the ids stay the same and so do the ports.
  have hkeeps (id : String) : f.Keeps { f with nodes := f.nodes.map g } id := by
    intro n hn
    refine ⟨g n, ?_, hports n (mem_of_node?_eq_some hn).1⟩
    have hsame : f.nodes.find? ((·.id == id) ∘ g) = some n := by
      rw [← hn, node?]
      refine find?_eq_of_forall_mem fun m hm => ?_
      simp only [Function.comp_apply, hid m hm]
    rw [node?, List.find?_map, hsame, Option.map_some]
  refine ⟨checkStructure_eq_nil_iff.2 (h.sound.of_keeps ?_ ?_ (List.Sublist.refl _)
    fun e _ => ⟨hkeeps _, hkeeps _⟩), ?_, ?_, ?_⟩
  · rw [nodeIds, hids]
    exact h.sound.nodeIds
  · rw [List.forall_mem_map]
    intro n hn
    rw [htype n hn]
    exact h.sound.types n hn
  · rw [hingress, List.length_map]
    exact h.single
  · rw [hingress, List.forall_mem_map]
    intro n hn
    rw [hid n (List.mem_filter.1 hn).1]
    exact h.entry n hn
  · intro hbuiltin
    rw [List.forall_mem_map]
    intro n hn
    rw [htype n hn]
    exact htyped hbuiltin n hn

/-- A flow stays consistent when a node gets another position, label or configuration. -/
theorem Consistent.setNode (h : Consistent r f) {id : String} {n n' : Node} (hn : f.node? id = some n)
    (hid : n'.id = n.id) (htype : n'.type = n.type) (hin : n'.data.inputs = n.data.inputs)
    (hout : n'.data.outputs = n.data.outputs)
    (htyped : r = .builtin → ∀ t, r.find? n.type = some t → t.typeProblems n'.data.config = []) :
    Consistent r (setNode f id n') := by
  obtain ⟨hmem, hname⟩ := mem_of_node?_eq_some hn
  -- The node is the only one with its id.
  have honly {m : Node} (hm : m ∈ f.nodes) (heq : (m.id == id) = true) : m = n :=
    List.inj_on_of_nodup_map h.sound.nodeIds hm hmem ((eq_of_beq heq).trans hname.symm)
  refine h.mapNodes (fun m hm => ?_) (fun m hm => ?_) (fun m hm => ?_) fun hbuiltin m hm => ?_
  · split
    · next heq => rw [hid, honly hm heq]
    · rfl
  · split
    · next heq => rw [htype, honly hm heq]
    · rfl
  · split
    · next heq => exact ⟨by rw [hin, honly hm heq], by rw [hout, honly hm heq]⟩
    · exact ⟨rfl, rfl⟩
  · split
    · next heq =>
      rw [honly hm heq]
      exact htyped hbuiltin
    · exact h.typed hbuiltin m hm

/-! ### Edges -/

/-- A flow stays consistent when it gets an edge with a new id that makes a new connection between two nodes. -/
theorem Consistent.withEdge (h : Consistent r f) {e : Edge} {source target : Node} (hid : e.id ∉ f.edgeIds)
    (hjoins : Validator.Joins f e source target) (hkey : ∀ d ∈ f.edges, f.edgeKey d ≠ f.edgeKey e)
    (hentry : r.isIngress target = false) : Consistent r (withEdge f e) := by
  have hedges : (Editor.withEdge f e).edges = f.edges ++ [e] := rfl
  refine ⟨checkStructure_eq_nil_iff.2 ⟨h.sound.nodeIds, h.sound.types, ?_, ?_, ?_⟩, h.single, fun n hn => ?_, h.typed⟩
  · rw [hedges, List.forall_mem_append]
    exact ⟨h.sound.joins, by simpa using ⟨source, target, hjoins⟩⟩
  · rw [edgeIds, hedges, List.map_append, List.nodup_append]
    refine ⟨h.sound.edgeIds, by simp, fun a ha b hb heq => ?_⟩
    simp only [List.map_cons, List.map_nil, List.mem_singleton] at hb
    rw [heq, hb] at ha
    exact hid ha
  · rw [hedges, List.map_append, List.nodup_append]
    refine ⟨h.sound.keys, by simp, fun a ha b hb heq => ?_⟩
    obtain ⟨d, hd, rfl⟩ := List.mem_map.1 ha
    simp only [List.map_cons, List.map_nil, List.mem_singleton] at hb
    exact hkey d hd (heq.trans hb)
  · obtain ⟨hmem, hinput⟩ := List.mem_filter.1 hn
    have hother : e.target ≠ n.id := by
      intro htarget
      have hfound := h.sound.node?_eq_some hmem
      rw [← htarget, hjoins.2.1] at hfound
      rw [Option.some.inj hfound, hinput] at hentry
      cases hentry
    rw [incoming, hedges, List.filter_append, ← incoming, h.entry n hn]
    simpa using hother

/-- The edges make the same connection. -/
structure SameEnds (d e : Edge) : Prop where
  id : d.id = e.id
  source : d.source = e.source
  target : d.target = e.target
  sourcePort? : d.sourcePort? = e.sourcePort?
  targetPort? : d.targetPort? = e.targetPort?

private theorem SameEnds.edgeKey_eq {d e : Edge} (h : SameEnds d e) (f : Flow) : f.edgeKey d = f.edgeKey e := by
  simp only [edgeKey, Flow.sourcePort?, Flow.targetPort?, h.source, h.target, h.sourcePort?, h.targetPort?]

private theorem SameEnds.joins {d e : Edge} (h : SameEnds d e) {source target : Node}
    (hjoins : Validator.Joins f e source target) : Validator.Joins f d source target := by
  obtain ⟨hsource, htarget, hports⟩ := hjoins
  refine ⟨h.source ▸ hsource, h.target ▸ htarget, ?_⟩
  rw [Validator.portFindings_eq_nil_iff] at hports ⊢
  rw [h.sourcePort?, h.targetPort?]
  exact hports

/-- A flow stays consistent when an edge gets other data. -/
theorem Consistent.setEdge (h : Consistent r f) {id : String} {e e' : Edge} (he : f.edge? id = some e)
    (hsame : SameEnds e' e) : Consistent r (setEdge f id e') := by
  have hmem : e ∈ f.edges := List.mem_of_find?_eq_some he
  have hname : e.id = id := by simpa using List.find?_some he
  have hedges : (Editor.setEdge f id e').edges = f.edges.map fun d => if d.id == id then e' else d := rfl
  -- The edge is the only one with its id.
  have hends (d : Edge) (hd : d ∈ f.edges) : SameEnds (if d.id == id then e' else d) d := by
    split
    · next heq =>
      rw [List.inj_on_of_nodup_map h.sound.edgeIds hd hmem ((eq_of_beq heq).trans hname.symm)]
      exact hsame
    · exact ⟨rfl, rfl, rfl, rfl, rfl⟩
  refine ⟨checkStructure_eq_nil_iff.2 ⟨h.sound.nodeIds, h.sound.types, ?_, ?_, ?_⟩, h.single, fun n hn => ?_, h.typed⟩
  · rw [hedges, List.forall_mem_map]
    intro d hd
    obtain ⟨source, target, hjoins⟩ := h.sound.joins d hd
    exact ⟨source, target, (hends d hd).joins hjoins⟩
  · have hids : (Editor.setEdge f id e').edgeIds = f.edgeIds := by
      rw [edgeIds, hedges, List.map_map]
      exact List.map_congr_left fun d hd => (hends d hd).id
    rw [hids]
    exact h.sound.edgeIds
  · have hkeys : (Editor.setEdge f id e').edges.map (Editor.setEdge f id e').edgeKey = f.edges.map f.edgeKey := by
      rw [hedges, List.map_map]
      exact List.map_congr_left fun d hd => (hends d hd).edgeKey_eq f
    rw [hkeys]
    exact h.sound.keys
  · have hnone := h.entry n hn
    rw [incoming, List.filter_eq_nil_iff] at hnone ⊢
    rw [hedges, List.forall_mem_map]
    intro d hd
    rw [(hends d hd).target]
    exact hnone d hd

end

end Editor

end IntegrationFlow
