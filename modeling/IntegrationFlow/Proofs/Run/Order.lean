import IntegrationFlow.Run.Engine
import IntegrationFlow.Proofs.Flow.Reach
import IntegrationFlow.Proofs.Flow.Valid
import IntegrationFlow.Proofs.NodeType.Config
import IntegrationFlow.Proofs.Run.Sim
import Mathlib.Data.List.Perm.Subperm

/-!
# The order of a run is the stable one

`IsStableOrder` says what the order of a run has to be. An agenda is `Sound` when its counts, its ready nodes and the
nodes that it has placed agree; a step keeps it so (`Sound.step`). The key facts: without cycles an agenda places all
reachable nodes (`Sound.mem_placed_of_ready_eq_nil`), and so every valid flow has its stable order
(`exists_order`).
-/

namespace IntegrationFlow.Run

/-! ### What the order has to be -/

/-- A node may come next: it is reachable, it was not placed, and the sources of all edges to it that are reachable were
placed. -/
structure IsAvailable (f : Flow) (start : String) (placed : List String) (n : Node) : Prop where
  declared : n ∈ f.nodes
  reached : f.Reaches start n.id
  fresh : n.id ∉ placed
  ready : ∀ e ∈ f.edges, e.target = n.id → f.Reaches start e.source → e.source ∈ placed

/-- The order of a run from a start. -/
structure IsStableOrder (f : Flow) (start : String) (order : List Node) : Prop where
  /-- No node comes twice. -/
  nodup : (order.map (·.id)).Nodup
  /-- The nodes of the order are those that are reachable. -/
  mem_iff : ∀ n, n ∈ order ↔ n ∈ f.nodes ∧ f.Reaches start n.id
  /-- The order begins with the start. -/
  head : order.head?.map (·.id) = some start
  /-- An edge leads from an earlier node to a later one. -/
  forward : ∀ e ∈ f.edges, f.Reaches start e.source →
    (order.map (·.id)).idxOf e.source < (order.map (·.id)).idxOf e.target
  /-- Of the nodes that may come next, the one that is declared first does. -/
  stable : ∀ i (h : i < order.length), IsAvailable f start ((order.take i).map (·.id)) order[i] ∧
    ∀ n, IsAvailable f start ((order.take i).map (·.id)) n → f.nodeIds.idxOf order[i].id ≤ f.nodeIds.idxOf n.id

namespace IsStableOrder

variable {f : Flow} {start : String} {done later : List Node} {n : Node}

/-- The node that comes after some others may come next when these were placed. -/
theorem isAvailable (h : IsStableOrder f start (done ++ n :: later)) : IsAvailable f start (done.map (·.id)) n := by
  have hlt : done.length < (done ++ n :: later).length := by simp
  have hat := (h.stable done.length hlt).1
  rw [List.take_left, List.getElem_append_right (Nat.le_refl _)] at hat
  simpa only [Nat.sub_self, List.getElem_cons_zero] using hat

/-- No edge of a node leads back. -/
theorem target_not_mem (h : IsStableOrder f start (done ++ n :: later)) {e : Edge} (he : e ∈ f.outgoing n.id) :
    e.target ∉ (done ++ [n]).map (·.id) := by
  obtain ⟨hmem, hs⟩ := Flow.mem_outgoing.1 he
  have hn := h.isAvailable
  have hbefore := h.forward e hmem (hs ▸ hn.reached)
  have hids : (done ++ n :: later).map (·.id) = (done ++ [n]).map (·.id) ++ later.map (·.id) := by simp
  have hfirst : ((done ++ [n]).map (·.id)).idxOf n.id = done.length := by
    rw [List.map_append, List.idxOf_append_of_notMem hn.fresh]
    simp
  intro hback
  rw [hids, hs, List.idxOf_append_of_mem (by simp), List.idxOf_append_of_mem hback, hfirst] at hbefore
  have hlt := List.idxOf_lt_length_of_mem hback
  rw [List.length_map, List.length_append, List.length_singleton] at hlt
  omega

/-- In front of a node, just the reachable ones of the nodes come from which edges lead to it. -/
theorem source_mem_iff (h : IsStableOrder f start (done ++ n :: later)) {e : Edge} (he : e ∈ f.edges)
    (ht : e.target = n.id) : e.source ∈ done.map (·.id) ↔ f.Reaches start e.source := by
  constructor
  · intro hmem
    obtain ⟨m, hm, hid⟩ := List.mem_map.1 hmem
    exact hid ▸ ((h.mem_iff m).1 (List.mem_append_left _ hm)).2
  · exact h.isAvailable.ready e he ht

/-- The nodes of the order are nodes of the flow. -/
theorem declared (h : IsStableOrder f start (done ++ later)) : ∀ m ∈ done, m ∈ f.nodes :=
  fun m hm => ((h.mem_iff m).1 (List.mem_append_left _ hm)).1

theorem declared_concat (h : IsStableOrder f start (done ++ n :: later)) : ∀ m ∈ done ++ [n], m ∈ f.nodes := by
  rw [List.append_cons] at h
  exact h.declared

/-- An edge from a reachable node leads to a node of the order. -/
theorem exists_target {r : Registry} {order : List Node} (h : IsStableOrder f start order) (valid : f.Valid r) {e : Edge}
    (he : e ∈ f.edges) (hreached : f.Reaches start e.source) : ∃ target ∈ order, target.id = e.target := by
  obtain ⟨_, target, -, htarget, -⟩ := valid.joins he
  obtain ⟨hdeclared, hid⟩ := Flow.mem_of_node?_eq_some htarget
  exact ⟨target, (h.mem_iff target).2 ⟨hdeclared, hid ▸ hreached.edge he⟩, hid⟩

/-- There is only one such order, for at every place only one node may come next. -/
theorem unique {r : Registry} (valid : f.Valid r) {order order' : List Node} (h : IsStableOrder f start order)
    (h' : IsStableOrder f start order') : order = order' := by
  have hperm : order.Perm order' := by
    refine (List.perm_ext_iff_of_nodup h.nodup.of_map h'.nodup.of_map).2 fun n => ?_
    rw [h.mem_iff, h'.mem_iff]
  have htake (i : Nat) (hi : i ≤ order.length) : order.take i = order'.take i := by
    induction i with
    | zero => rfl
    | succ i ih =>
      have hlt : i < order.length := hi
      have hlt' : i < order'.length := hperm.length_eq ▸ hi
      have hbefore := ih (Nat.le_of_succ_le hi)
      obtain ⟨hnext, hfirst⟩ := h.stable i hlt
      obtain ⟨hnext', hfirst'⟩ := h'.stable i hlt'
      rw [hbefore] at hnext hfirst
      have hposition : f.nodeIds.idxOf order[i].id = f.nodeIds.idxOf order'[i].id :=
        Nat.le_antisymm (hfirst _ hnext') (hfirst' _ hnext)
      have hid : order[i].id = order'[i].id :=
        (List.idxOf_inj (List.mem_map_of_mem hnext.declared)).1 hposition
      rw [List.take_succ_eq_append_getElem hlt, List.take_succ_eq_append_getElem hlt', hbefore,
        valid.eq_of_id_eq hnext.declared hnext'.declared hid]
  calc order = order.take order.length := (List.take_length).symm
    _ = order'.take order.length := htake _ (Nat.le_refl _)
    _ = order' := by rw [hperm.length_eq, List.take_length]

end IsStableOrder

namespace Agenda

/-! ### The queue of the ready nodes -/

theorem push_perm (r : ReadyNode) (rs : List ReadyNode) : (push r rs).Perm (r :: rs) := by
  induction rs with
  | nil => exact List.Perm.refl _
  | cons first others ih =>
    unfold push
    split
    · exact List.Perm.refl _
    · exact (ih.cons first).trans (List.Perm.swap r first others)

theorem mem_push {x r : ReadyNode} {rs : List ReadyNode} : x ∈ push r rs ↔ x = r ∨ x ∈ rs := by
  rw [(push_perm r rs).mem_iff, List.mem_cons]

/-- A queue stays in the order of the declarations. -/
theorem sorted_push {r : ReadyNode} {rs : List ReadyNode} (h : rs.Pairwise fun x y => x.1 ≤ y.1) :
    (push r rs).Pairwise fun x y => x.1 ≤ y.1 := by
  induction rs with
  | nil => simp [push]
  | cons first others ih =>
    rw [List.pairwise_cons] at h
    unfold push
    split
    · next hle =>
      rw [List.pairwise_cons, List.pairwise_cons]
      refine ⟨fun x hx => ?_, h.1, h.2⟩
      rcases List.mem_cons.1 hx with rfl | hx
      · exact hle
      · exact Nat.le_trans hle (h.1 x hx)
    · next hlt =>
      rw [List.pairwise_cons]
      refine ⟨fun x hx => ?_, ih h.2⟩
      rcases mem_push.1 hx with rfl | hx
      · omega
      · exact h.1 x hx

/-! ### What an agenda keeps track of -/

/-- How many edges lead to a node from reachable nodes that were not placed. -/
def pending (f : Flow) (reached placed : List String) (id : String) : Nat :=
  f.edges.countP fun e => e.target == id && (reached.contains e.source && !placed.contains e.source)

theorem pending_eq_zero_iff {f : Flow} {reached placed : List String} {id : String} :
    pending f reached placed id = 0 ↔
      ∀ e ∈ f.edges, e.target = id → e.source ∈ reached → e.source ∈ placed := by
  simp only [pending, List.countP_eq_zero, Bool.and_eq_true, beq_iff_eq, List.contains_eq_mem, decide_eq_true_eq,
    Bool.not_eq_true', decide_eq_false_iff_not, not_and, not_not]

theorem degreeIn_eq_pending (f : Flow) (reached : List String) (id : String) :
    degreeIn f reached id = pending f reached [] id := by
  simp only [degreeIn, pending, Flow.incoming, List.countP_filter]
  apply List.countP_congr
  intro e _
  simp [and_comm]

/-- Placing a node takes away the edges that leave it. -/
theorem pending_append {f : Flow} {reached placed : List String} {first : String} (hin : first ∈ reached)
    (hnew : first ∉ placed) (id : String) :
    pending f reached placed id =
      pending f reached (placed ++ [first]) id + ((f.outgoing first).map (·.target)).count id := by
  simp only [pending, Flow.outgoing, List.count, List.countP_map, List.countP_filter]
  induction f.edges with
  | nil => rfl
  | cons e es ih =>
    simp only [List.countP_cons, ih]
    by_cases hs : e.source = first
    · by_cases ht : e.target = id
      · simp [hs, ht, hin, hnew]
        omega
      · simp [ht]
    · have hne : ¬ first = e.source := fun h => hs h.symm
      simp [hs]
      omega

/-- The counts of an agenda are given by a function, and its ready nodes are those of count zero that were not
placed. -/
structure Tracks (f : Flow) (reached placed : List String) (count : String → Nat) (a : Agenda) : Prop where
  degree : ∀ id ∈ reached, a.indegree.lookup id = some (count id : Int)
  nodup : a.ready.Nodup
  sorted : a.ready.Pairwise fun x y => x.1 ≤ y.1
  mem_ready : ∀ x, x ∈ a.ready ↔ ∃ id, x = entry f id ∧ id ∈ reached ∧ id ∉ placed ∧ count id = 0

/-- The counts with one edge less to a node. -/
def oneLess (count : String → Nat) (id : String) : String → Nat := fun other =>
  if other = id then count id - 1 else count other

private theorem oneLess_self (count : String → Nat) (id : String) : oneLess count id id = count id - 1 :=
  if_pos rfl

private theorem oneLess_of_ne (count : String → Nat) {id other : String} (h : other ≠ id) :
    oneLess count id other = count other :=
  if_neg h

private theorem Tracks.lookup_oneLess {f : Flow} {reached placed : List String} {count : String → Nat} {a : Agenda}
    (h : Tracks f reached placed count a) {id : String} (hpos : 0 < count id) :
    ∀ other ∈ reached,
      ((id, (count id : Int) - 1) :: a.indegree).lookup other = some (oneLess count id other : Int) := by
  intro other hother
  by_cases heq : other = id
  · subst heq
    have hcast : (count other : Int) - 1 = ((count other - 1 : Nat) : Int) := by omega
    rw [List.lookup_cons_self, oneLess_self, hcast]
  · have hne : (other == id) = false := by simpa using heq
    rw [List.lookup_cons, hne, oneLess_of_ne count heq]
    exact h.degree other hother

/-- A release takes one edge away from the count of a node. -/
private theorem Tracks.release {f : Flow} {reached placed : List String} {count : String → Nat} {a : Agenda}
    (h : Tracks f reached placed count a) {id : String} (hin : id ∈ reached) (hnew : id ∉ placed)
    (hpos : 0 < count id) : Tracks f reached placed (oneLess count id) (a.release f id) := by
  -- The node was not ready before, since an edge to it was left.
  have hwait : ∀ other, other ∈ reached → count other = 0 → other ≠ id := by
    intro other _ hzero heq
    rw [heq] at hzero
    omega
  unfold Agenda.release
  rw [h.degree id hin]
  by_cases hlast : count id = 1
  · have hzero : (count id : Int) - 1 = 0 := by omega
    dsimp only
    rw [if_pos hzero]
    refine ⟨h.lookup_oneLess hpos, ?_, sorted_push h.sorted, fun x => ?_⟩
    · refine (push_perm _ _).nodup_iff.2 (List.nodup_cons.2 ⟨fun hmem => ?_, h.nodup⟩)
      obtain ⟨other, hother, hreach, -, hcount⟩ := (h.mem_ready _).1 hmem
      exact hwait other hreach hcount (congrArg Prod.snd hother).symm
    · rw [mem_push, h.mem_ready]
      constructor
      · rintro (rfl | ⟨other, rfl, hreach, hfresh, hcount⟩)
        · exact ⟨id, rfl, hin, hnew, by rw [oneLess_self, hlast]⟩
        · exact ⟨other, rfl, hreach, hfresh, by rw [oneLess_of_ne count (hwait other hreach hcount), hcount]⟩
      · rintro ⟨other, rfl, hreach, hfresh, hcount⟩
        by_cases heq : other = id
        · exact .inl (heq ▸ rfl)
        · rw [oneLess_of_ne count heq] at hcount
          exact .inr ⟨other, rfl, hreach, hfresh, hcount⟩
  · have hmore : ¬ (count id : Int) - 1 = 0 := by omega
    dsimp only
    rw [if_neg hmore]
    refine ⟨h.lookup_oneLess hpos, h.nodup, h.sorted, fun x => ?_⟩
    rw [h.mem_ready]
    constructor
    · rintro ⟨other, rfl, hreach, hfresh, hcount⟩
      exact ⟨other, rfl, hreach, hfresh, by rw [oneLess_of_ne count (hwait other hreach hcount), hcount]⟩
    · rintro ⟨other, rfl, hreach, hfresh, hcount⟩
      have hne : other ≠ id := by
        intro heq
        rw [heq, oneLess_self] at hcount
        omega
      rw [oneLess_of_ne count hne] at hcount
      exact ⟨other, rfl, hreach, hfresh, hcount⟩

/-- Releasing the targets of edges takes all these edges away. -/
private theorem Tracks.releaseAll {f : Flow} {reached placed : List String} {count : String → Nat}
    (targets : List String) {a : Agenda} (h : Tracks f reached placed (fun id => count id + targets.count id) a)
    (hall : ∀ id ∈ targets, id ∈ reached ∧ id ∉ placed) :
    Tracks f reached placed count (targets.foldl (Agenda.release f) a) := by
  induction targets generalizing a with
  | nil => exact h
  | cons target targets ih =>
    have hfirst := hall target List.mem_cons_self
    have hrelease := h.release hfirst.1 hfirst.2 (by rw [List.count_cons_self]; omega)
    refine ih ?_ fun id hid => hall id (List.mem_cons_of_mem _ hid)
    have hcount : oneLess (fun id => count id + (target :: targets).count id) target =
        fun id => count id + targets.count id := by
      funext other
      by_cases heq : other = target
      · subst heq
        rw [oneLess_self, List.count_cons_self]
        omega
      · rw [oneLess_of_ne _ heq, List.count_cons_of_ne (Ne.symm heq)]
    rw [← hcount]
    exact hrelease

private theorem placed_releaseAll (f : Flow) (targets : List String) (a : Agenda) :
    (targets.foldl (release f) a).placed = a.placed := by
  induction targets generalizing a with
  | nil => rfl
  | cons target targets ih =>
    rw [List.foldl_cons, ih]
    unfold release
    split <;> rfl

/-! ### Steps -/

/-- A set of ids of nodes that is closed under the edges of its flow. -/
structure Closed (f : Flow) (reached : List String) : Prop where
  nodup : reached.Nodup
  nodeIds : reached ⊆ f.nodeIds
  edge : ∀ e ∈ f.edges, e.source ∈ reached → e.target ∈ reached

/-- The node may be placed next, and among those that may it is declared first. -/
structure IsNext (f : Flow) (reached placed : List String) (n : Node) : Prop where
  declared : n ∈ f.nodes
  known : n.id ∈ reached
  fresh : n.id ∉ placed
  ready : pending f reached placed n.id = 0
  first : ∀ id ∈ reached, id ∉ placed → pending f reached placed id = 0 → f.nodeIds.idxOf n.id ≤ f.nodeIds.idxOf id

/-- The ids of the nodes that an agenda has placed. -/
def placedIds (a : Agenda) : List String :=
  a.placed.map (·.id)

/-- What holds of an agenda of reachable nodes after any number of steps. -/
structure Sound (f : Flow) (reached : List String) (a : Agenda) : Prop where
  tracks : Tracks f reached a.placedIds (pending f reached a.placedIds) a
  nodup : a.placedIds.Nodup
  settled : ∀ id ∈ a.placedIds, id ∈ reached ∧ pending f reached a.placedIds id = 0
  next : ∀ i (h : i < a.placed.length), IsNext f reached ((a.placed.take i).map (·.id)) a.placed[i]

/-- The position of an id leads to the node. -/
private theorem getElem?_idxOf {f : Flow} {id : String} (h : id ∈ f.nodeIds) :
    ∃ n ∈ f.nodes, f.nodes[f.nodeIds.idxOf id]? = some n ∧ n.id = id := by
  have hlt := List.idxOf_lt_length_of_mem h
  have hlt' : f.nodeIds.idxOf id < f.nodes.length := by simpa only [Flow.nodeIds, List.length_map] using hlt
  refine ⟨f.nodes[f.nodeIds.idxOf id], List.getElem_mem hlt', List.getElem?_eq_getElem hlt', ?_⟩
  have hid : f.nodeIds[f.nodeIds.idxOf id] = id := List.getElem_idxOf hlt
  calc f.nodes[f.nodeIds.idxOf id].id = f.nodeIds[f.nodeIds.idxOf id] := by simp only [Flow.nodeIds, List.getElem_map]
    _ = id := hid

private theorem lookup_map_self {ids : List String} (g : String → Int) {id : String} (h : id ∈ ids) :
    (ids.map fun x => (x, g x)).lookup id = some (g id) := by
  induction ids with
  | nil => simp at h
  | cons first ids ih =>
    by_cases heq : id = first
    · subst heq
      simp
    · have hne : (id == first) = false := by simpa using heq
      simp only [List.map_cons, List.lookup_cons, hne]
      exact ih ((List.mem_cons.1 h).resolve_left heq)

private theorem foldr_push_perm (rs : List ReadyNode) : (rs.foldr push []).Perm rs := by
  induction rs with
  | nil => exact List.Perm.refl _
  | cons r rs ih => exact (push_perm r _).trans (ih.cons r)

private theorem sorted_foldr_push (rs : List ReadyNode) : (rs.foldr push []).Pairwise fun x y => x.1 ≤ y.1 := by
  induction rs with
  | nil => exact List.Pairwise.nil
  | cons r rs ih => exact sorted_push ih

/-- Nothing is placed yet, and the nodes without edges to them are ready. -/
theorem sound_start {f : Flow} {reached : List String} (hnodup : reached.Nodup) :
    Sound f reached (start f reached) := by
  refine ⟨⟨fun id hid => ?_, ?_, sorted_foldr_push _, fun x => ?_⟩, List.nodup_nil, by simp [placedIds, start], ?_⟩
  · rw [start, lookup_map_self _ hid, degreeIn_eq_pending]
    rfl
  · rw [start, (foldr_push_perm _).nodup_iff]
    exact (hnodup.filter _).map fun _ _ h => congrArg Prod.snd h
  · rw [start, (foldr_push_perm _).mem_iff]
    simp only [List.mem_map, List.mem_filter, degreeIn_eq_pending, decide_eq_true_eq, placedIds, List.map_nil]
    constructor
    · rintro ⟨id, ⟨hid, hzero⟩, rfl⟩
      exact ⟨id, rfl, hid, by simp, hzero⟩
    · rintro ⟨id, rfl, hid, -, hzero⟩
      exact ⟨id, ⟨hid, hzero⟩, rfl⟩
  · intro i h
    simp [start] at h

/-- A step places the node that is next. -/
private theorem Sound.isNext {f : Flow} {reached : List String} (hclosed : Closed f reached) {a : Agenda}
    (h : Sound f reached a) {first : ReadyNode} {others : List ReadyNode} (hready : a.ready = first :: others) :
    ∃ n, f.nodes[first.1]? = some n ∧ n.id = first.2 ∧ IsNext f reached a.placedIds n := by
  have hmem := h.tracks.mem_ready
  rw [hready] at hmem
  obtain ⟨id, rfl, hin, hnew, hzero⟩ := (hmem first).1 List.mem_cons_self
  obtain ⟨n, hn, hget, rfl⟩ := getElem?_idxOf (hclosed.nodeIds hin)
  refine ⟨n, hget, rfl, hn, hin, hnew, hzero, fun id hid hfresh hnone => ?_⟩
  have hsorted := h.tracks.sorted
  rw [hready, List.pairwise_cons] at hsorted
  have hwaiting := (hmem (entry f id)).2 ⟨id, rfl, hid, hfresh, hnone⟩
  rcases List.mem_cons.1 hwaiting with heq | hlater
  · exact Nat.le_of_eq (congrArg Prod.fst heq.symm)
  · exact hsorted.1 _ hlater

/-- No edge leads from the node that is next to one that was placed, nor to itself. -/
private theorem Sound.target {f : Flow} {reached : List String} (hclosed : Closed f reached) {a : Agenda}
    (h : Sound f reached a) {n : Node} (hnext : IsNext f reached a.placedIds n) :
    ∀ id ∈ (f.outgoing n.id).map (·.target), id ∈ reached ∧ id ∉ a.placedIds ++ [n.id] := by
  intro id hmem
  obtain ⟨e, he, rfl⟩ := List.mem_map.1 hmem
  obtain ⟨he, hs⟩ := Flow.mem_outgoing.1 he
  have hsource : e.source ∈ reached := hs ▸ hnext.known
  refine ⟨hclosed.edge e he hsource, fun hback => hnext.fresh ?_⟩
  -- Nothing is pending for a target that was placed, so the source would have been placed before it.
  have hzero : pending f reached a.placedIds e.target = 0 := by
    rcases List.mem_append.1 hback with hold | hself
    · exact (h.settled _ hold).2
    · rw [List.mem_singleton.1 hself]
      exact hnext.ready
  exact hs ▸ pending_eq_zero_iff.1 hzero e he rfl hsource

/-- Between placing a node and releasing the targets of its edges, the counts still hold these edges. -/
private theorem Sound.tracks_placed {f : Flow} {reached : List String} {a : Agenda} (h : Sound f reached a)
    {first : ReadyNode} {others : List ReadyNode} (hready : a.ready = first :: others) {n : Node}
    (hid : n.id = first.2) (hnext : IsNext f reached a.placedIds n) :
    Tracks f reached (a.placedIds ++ [n.id])
      (fun id => pending f reached (a.placedIds ++ [n.id]) id + ((f.outgoing n.id).map (·.target)).count id)
      { a with ready := others, placed := a.placed ++ [n] } := by
  obtain ⟨hdegree, hnodup, hsorted, hmem⟩ := h.tracks
  rw [hready] at hnodup hsorted hmem
  rw [List.nodup_cons] at hnodup
  rw [List.pairwise_cons] at hsorted
  have hcount := pending_append (f := f) hnext.known hnext.fresh
  have hfirst : first = entry f n.id := by
    obtain ⟨id, heq, -⟩ := (hmem first).1 List.mem_cons_self
    obtain rfl : n.id = id := by rw [hid, heq]; rfl
    exact heq
  refine ⟨fun id hin => ?_, hnodup.2, hsorted.2, fun x => ?_⟩
  · rw [← hcount]
    exact hdegree id hin
  · constructor
    · intro hx
      obtain ⟨id, rfl, hin, hnew, hzero⟩ := (hmem x).1 (List.mem_cons_of_mem _ hx)
      refine ⟨id, rfl, hin, fun hback => ?_, by rw [← hcount]; exact hzero⟩
      rcases List.mem_append.1 hback with hold | hself
      · exact hnew hold
      · rw [List.mem_singleton.1 hself, ← hfirst] at hx
        exact hnodup.1 hx
    · rintro ⟨id, rfl, hin, hnew, hzero⟩
      rw [← hcount] at hzero
      simp only [List.mem_append, List.mem_singleton, not_or] at hnew
      have hwaiting := (hmem (entry f id)).2 ⟨id, rfl, hin, hnew.1, hzero⟩
      -- A node that was ready stays so, unless it is the one that has just been placed.
      rcases List.mem_cons.1 hwaiting with heq | hx
      · have hsame : id = n.id := congrArg Prod.snd (heq.trans hfirst)
        exact absurd hsame hnew.2
      · exact hx

/-- A step keeps an agenda sound, and places a node when one is ready. -/
theorem Sound.step {f : Flow} {reached : List String} (hclosed : Closed f reached) {a : Agenda}
    (h : Sound f reached a) :
    Sound f reached (a.step f) ∧ (a.ready ≠ [] → (a.step f).placed.length = a.placed.length + 1) := by
  unfold Agenda.step
  split
  · next hnil => exact ⟨h, fun hne => absurd hnil hne⟩
  · next first others hready =>
    obtain ⟨n, hget, hid, hnext⟩ := h.isNext hclosed hready
    rw [hget, ← hid, Option.toList_some]
    have htracks := (h.tracks_placed hready hid hnext).releaseAll _ (h.target hclosed hnext)
    have hplaced := placed_releaseAll f ((f.outgoing n.id).map (·.target))
      { a with ready := others, placed := a.placed ++ [n] }
    have hids : (((f.outgoing n.id).map (·.target)).foldl (Agenda.release f)
        { a with ready := others, placed := a.placed ++ [n] }).placedIds = a.placedIds ++ [n.id] := by
      rw [placedIds, hplaced]
      simp [placedIds]
    refine ⟨⟨?_, ?_, ?_, ?_⟩, fun _ => ?_⟩
    · rw [hids]
      exact htracks
    · rw [hids, ← List.concat_eq_append]
      exact h.nodup.concat hnext.fresh
    · rw [hids]
      intro id hmem
      have hold : id ∈ reached ∧ pending f reached a.placedIds id = 0 := by
        rcases List.mem_append.1 hmem with hold | hself
        · exact h.settled id hold
        · rw [List.mem_singleton.1 hself]
          exact ⟨hnext.known, hnext.ready⟩
      have hcount := pending_append (f := f) hnext.known hnext.fresh id
      exact ⟨hold.1, by omega⟩
    · simp only [hplaced]
      intro i hi
      rw [List.length_append, List.length_singleton] at hi
      by_cases hlt : i < a.placed.length
      · have hle : i ≤ a.placed.length := Nat.le_of_lt hlt
        rw [List.getElem_append_left hlt, List.take_append_of_le_length hle]
        exact h.next i hlt
      · obtain rfl : i = a.placed.length := by omega
        rw [List.getElem_concat_length rfl, List.take_left]
        exact hnext
    · rw [hplaced, List.length_append, List.length_singleton]

private theorem run_of_ready_eq_nil (f : Flow) (steps : Nat) {a : Agenda} (h : a.ready = []) : a.run f steps = a := by
  induction steps with
  | zero => rfl
  | succ steps ih =>
    have hstep : a.step f = a := by
      unfold Agenda.step
      rw [h]
    rw [Agenda.run, hstep, ih]

/-- A run keeps an agenda sound; unless no node is ready in the end, it has placed a node in every step. -/
theorem Sound.run {f : Flow} {reached : List String} (hclosed : Closed f reached) (steps : Nat) {a : Agenda}
    (h : Sound f reached a) :
    Sound f reached (a.run f steps) ∧
      ((a.run f steps).ready = [] ∨ (a.run f steps).placed.length = a.placed.length + steps) := by
  induction steps generalizing a with
  | zero => exact ⟨h, .inr rfl⟩
  | succ steps ih =>
    -- Once no node is ready, the steps that are left change nothing.
    by_cases hnil : a.ready = []
    · rw [run_of_ready_eq_nil f _ hnil]
      exact ⟨h, .inl hnil⟩
    · have hstep := h.step hclosed
      obtain ⟨hsound, hend⟩ := ih hstep.1
      refine ⟨hsound, hend.imp_right fun hlength => ?_⟩
      rw [Agenda.run, hlength, hstep.2 hnil]
      omega

/-! ### Without cycles all reachable nodes are placed -/

/-- When no node is ready, every reachable node was placed: otherwise one that was not placed would be the first of
them, and ready. -/
theorem Sound.mem_placed_of_ready_eq_nil {f : Flow} {reached : List String} (hclosed : Closed f reached)
    (hacyclic : f.Acyclic []) {a : Agenda} (h : Sound f reached a) (hnil : a.ready = []) :
    ∀ id ∈ reached, id ∈ a.placedIds := by
  intro id hid
  by_contra hleft
  obtain ⟨first, ⟨hin, hnew⟩, hfirst⟩ := hacyclic.exists_first (p := fun id => id ∈ reached ∧ id ∉ a.placedIds)
    (fun _ hp => hclosed.nodeIds hp.1) ⟨id, hid, hleft⟩
  -- Whatever leads to the first node that is left was placed, so nothing keeps that node from being ready.
  have hzero : pending f reached a.placedIds first = 0 := by
    rw [pending_eq_zero_iff]
    rintro e he rfl hs
    by_contra hout
    exact hfirst e.source ⟨hs, hout⟩ ⟨e, he, by simp, rfl, rfl, hclosed.nodeIds hs, hclosed.nodeIds hin⟩
  have hready := (h.tracks.mem_ready (entry f first)).2 ⟨first, rfl, hin, hnew, hzero⟩
  rw [hnil] at hready
  simp at hready

/-- One step for each reachable node places all of them. -/
theorem placedIds_run_perm {f : Flow} {reached : List String} (hclosed : Closed f reached) (hacyclic : f.Acyclic []) :
    ((start f reached).run f reached.length).placedIds.Perm reached := by
  obtain ⟨hsound, hend⟩ := (sound_start hclosed.nodup).run hclosed reached.length
  have hsub : ((start f reached).run f reached.length).placedIds ⊆ reached := fun id hid => (hsound.settled id hid).1
  rcases hend with hnil | hlength
  · rw [List.perm_ext_iff_of_nodup hsound.nodup hclosed.nodup]
    exact fun id => ⟨fun hid => hsub hid, hsound.mem_placed_of_ready_eq_nil hclosed hacyclic hnil id⟩
  · refine (List.subperm_of_subset hsound.nodup hsub).perm_of_length_le ?_
    rw [placedIds, List.length_map, hlength]
    omega

end Agenda

/-! ### Valid flows have their order -/

section

variable {r : Registry} {f : Flow} {ingress : Node}

/-- The reachable ids of a valid flow are ids of its nodes. -/
theorem closed_reachable (valid : f.Valid r) (hin : ingress ∈ f.nodes) :
    Agenda.Closed f (f.reachable ingress.id) where
  nodup := f.nodup_reachable ingress.id
  nodeIds := by
    intro id hid
    by_cases heq : id = ingress.id
    · exact heq ▸ List.mem_map_of_mem hin
    · obtain ⟨e, he, rfl, -⟩ := (Flow.mem_reachable_iff.1 hid).last_edge heq
      obtain ⟨source, target, hjoins⟩ := valid.joins he
      obtain ⟨hmem, hid⟩ := Flow.mem_of_node?_eq_some hjoins.2.1
      exact hid ▸ List.mem_map_of_mem hmem
  edge := fun _ he hs => f.mem_reachable_of_edge he hs

/-- What the agenda says about the next node is what the order has to be. -/
private theorem isAvailable_iff {placed : List String} {n : Node} :
    IsAvailable f ingress.id placed n ↔ n ∈ f.nodes ∧ n.id ∈ f.reachable ingress.id ∧ n.id ∉ placed ∧
      Agenda.pending f (f.reachable ingress.id) placed n.id = 0 := by
  rw [Agenda.pending_eq_zero_iff]
  simp only [Flow.mem_reachable_iff]
  constructor
  · rintro ⟨hdeclared, hreached, hfresh, hready⟩
    exact ⟨hdeclared, hreached, hfresh, hready⟩
  · rintro ⟨hdeclared, hreached, hfresh, hready⟩
    exact ⟨hdeclared, hreached, hfresh, hready⟩

/-- An agenda that has placed all reachable nodes has placed them in the order of a run. -/
private theorem Agenda.Sound.isStableOrder (valid : f.Valid r) {a : Agenda}
    (h : a.Sound f (f.reachable ingress.id)) (hall : a.placedIds.Perm (f.reachable ingress.id)) :
    IsStableOrder f ingress.id a.placed := by
  have havailable : ∀ i (hi : i < a.placed.length),
      IsAvailable f ingress.id ((a.placed.take i).map (·.id)) a.placed[i] := by
    intro i hi
    obtain ⟨hdeclared, hknown, hfresh, hready, -⟩ := h.next i hi
    exact isAvailable_iff.2 ⟨hdeclared, hknown, hfresh, hready⟩
  refine ⟨h.nodup, fun n => ⟨fun hn => ?_, fun hn => ?_⟩, ?_, fun e he hs => ?_, fun i hi => ⟨havailable i hi, ?_⟩⟩
  · obtain ⟨i, hi, rfl⟩ := List.getElem_of_mem hn
    exact ⟨(havailable i hi).declared, (havailable i hi).reached⟩
  · have hid : n.id ∈ a.placedIds := hall.mem_iff.2 (Flow.mem_reachable_iff.2 hn.2)
    obtain ⟨m, hm, hsame⟩ := List.mem_map.1 hid
    obtain ⟨i, hi, rfl⟩ := List.getElem_of_mem hm
    rw [← valid.eq_of_id_eq (havailable i hi).declared hn.1 hsame]
    exact List.getElem_mem hi
  · have hstart : ingress.id ∈ a.placedIds := hall.mem_iff.2 (f.mem_reachable_self ingress.id)
    have hpos : 0 < a.placed.length := by simpa only [placedIds, List.length_map] using List.length_pos_of_mem hstart
    obtain ⟨-, hreached, -, hready⟩ := havailable 0 hpos
    have hfirst : a.placed[0].id = ingress.id := by
      by_contra hne
      obtain ⟨e, he, ht, hs⟩ := hreached.last_edge hne
      simpa using hready e he ht hs
    rw [List.head?_eq_getElem?, List.getElem?_eq_getElem hpos, Option.map_some, hfirst]
  · have htarget : e.target ∈ a.placedIds := hall.mem_iff.2 (Flow.mem_reachable_iff.2 (hs.edge he))
    have hsource : e.source ∈ a.placedIds := hall.mem_iff.2 (Flow.mem_reachable_iff.2 hs)
    have hlt := List.idxOf_lt_length_of_mem htarget
    have hi : a.placedIds.idxOf e.target < a.placed.length := by simpa only [placedIds, List.length_map] using hlt
    have hid : a.placed[a.placedIds.idxOf e.target].id = e.target := by
      calc a.placed[a.placedIds.idxOf e.target].id = a.placedIds[a.placedIds.idxOf e.target] := by
            simp only [placedIds, List.getElem_map]
        _ = e.target := List.getElem_idxOf hlt
    have hbefore := (havailable _ hi).ready e he hid.symm hs
    rw [List.map_take] at hbefore
    exact (List.mem_take_iff_idxOf_lt hsource).1 hbefore
  · intro n hn
    obtain ⟨-, hknown, hfresh, hready⟩ := isAvailable_iff.1 hn
    exact (h.next i hi).first n.id hknown hfresh hready

/-- A valid flow has one ingress, and an order that begins there. -/
theorem exists_order (valid : f.Valid r) :
    ∃ ingress order, Validator.ingressNodes r f = [ingress] ∧ executionOrder? f ingress = some order ∧
      IsStableOrder f ingress.id order := by
  obtain ⟨ingress, hingress, -⟩ := valid.exists_ingress
  have hin : ingress ∈ f.nodes :=
    (List.mem_filter.1 (hingress ▸ List.mem_singleton_self ingress : ingress ∈ Validator.ingressNodes r f)).1
  have hclosed := closed_reachable valid hin
  obtain ⟨hsound, -⟩ := (Agenda.sound_start hclosed.nodup).run hclosed (f.reachable ingress.id).length
  have hperm := Agenda.placedIds_run_perm hclosed valid.acyclic
  have hlength : ((Agenda.start f (f.reachable ingress.id)).run f (f.reachable ingress.id).length).placed.length =
      (f.reachable ingress.id).length := by
    simpa only [Agenda.placedIds, List.length_map] using hperm.length_eq
  refine ⟨ingress, _, hingress, ?_, hsound.isStableOrder valid hperm⟩
  unfold executionOrder?
  rw [if_pos hlength]

end

/-- The search for the ingress ends at the first node of an input type. -/
private theorem ingressOf_eq_ok {env : Env} {s : State} {ns : List Node} {first : Node} {others : List Node}
    (htypes : ∀ n ∈ ns, ∃ t, env.engine.registry.find? n.type = some t)
    (hfirst : ns.filter env.engine.registry.isIngress = first :: others) : ingressOf env ns s = .ok first s := by
  induction ns with
  | nil => simp at hfirst
  | cons n ns ih =>
    obtain ⟨t, ht⟩ := htypes n List.mem_cons_self
    have htype : Sim.typeOf env n s = .ok t s := by
      unfold Sim.typeOf
      rw [ht]
      rfl
    have hinput : env.engine.registry.isIngress n = (t.category == .input) := by
      unfold Registry.isIngress
      rw [ht]
      rfl
    unfold ingressOf
    rw [Sim.bind_eq_of_ok _ htype]
    rw [List.filter_cons, hinput] at hfirst
    split
    · next hcategory =>
      rw [if_pos hcategory] at hfirst
      obtain rfl : n = first := (List.cons.inj hfirst).1
      rfl
    · next hcategory =>
      rw [if_neg hcategory] at hfirst
      exact ih (fun m hm => htypes m (List.mem_cons_of_mem _ hm)) hfirst

/-- A run takes up the order of its flow. -/
theorem orderOf_eq_ok {env : Env} {s : State} {ingress : Node} {order : List Node}
    (valid : env.flow.Valid env.engine.registry)
    (hingress : Validator.ingressNodes env.engine.registry env.flow = [ingress])
    (horder : executionOrder? env.flow ingress = some order) : orderOf env s = .ok order s := by
  unfold orderOf
  rw [Sim.bind_eq_of_ok _ (ingressOf_eq_ok (fun n hn => valid.exists_type hn) hingress), horder]
  rfl

/-- From every state, a run of a valid flow takes up the stable order from the only ingress. -/
theorem orderOf_eq_stable_order {env : Env} (valid : env.flow.Valid env.engine.registry) (s : State) :
    ∃ ingress order, Validator.ingressNodes env.engine.registry env.flow = [ingress] ∧
      orderOf env s = .ok order s ∧ IsStableOrder env.flow ingress.id order := by
  obtain ⟨ingress, order, hingress, horder, hstable⟩ := exists_order valid
  exact ⟨ingress, order, hingress, orderOf_eq_ok valid hingress horder, hstable⟩

/-- A flow with two branches. The node in which they meet is declared first, and two edges lead to it from one node. -/
def diamond : Flow where
  id := "diamond"
  name := "Diamond"
  nodes := [Kind.transform.node "join" [], Kind.ingress.node "start" [], Kind.transform.node "left" [],
    Kind.transform.node "right" []]
  edges := [{ id := "1", source := "start", target := "right" }, { id := "2", source := "start", target := "left" },
    { id := "3", source := "left", target := "join" },
    { id := "4", source := "left", target := "join", sourcePort? := some "error" },
    { id := "5", source := "right", target := "join" }]
  createdAt := default
  updatedAt := default

/-- A run of the diamond. -/
def diamondEnv : Env :=
  ⟨{}, diamond, .null, "run", false, fun _ => false⟩

theorem orderOf_diamond : ∃ ingress order,
    Validator.ingressNodes diamondEnv.engine.registry diamondEnv.flow = [ingress] ∧
      orderOf diamondEnv {} = .ok order {} ∧ IsStableOrder diamondEnv.flow ingress.id order :=
  orderOf_eq_stable_order (by decide) {}

example : (executionOrder? diamond (Kind.ingress.node "start" [])).map (·.map (·.id)) =
    some ["start", "left", "right", "join"] := by
  decide

end IntegrationFlow.Run
