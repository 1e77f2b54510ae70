import IntegrationFlow.Proofs.Editor.Session

/-!
# What listeners are told

The listeners of a session learn of every edit that is carried out, and of no other one (`told_edit`). What they are
told accounts for the flow that they see: whatever a change does not name is as it was, in the order in which it was
(`gives_outcome`, with one lemma for each way in which an editor changes a flow). Who listens is a matter of who has
joined and not left again (`listeners_after`).
-/

namespace IntegrationFlow.Editor

open IntegrationFlow.Flow

/-! ### Changes that account for what they do -/

/-- A change names all that tells the flow after it from the one before: the nodes and edges that it does not name are
the same and come in the same order, those that it names are in one of the two flows, and nothing else changes but the
time. -/
structure Change.Accounts (c : Change) (f g : Flow) : Prop where
  nodes : g.nodes.filter (fun n => !c.nodes.contains n.id) = f.nodes.filter fun n => !c.nodes.contains n.id
  edges : g.edges.filter (fun e => !c.edges.contains e.id) = f.edges.filter fun e => !c.edges.contains e.id
  known_nodes : ∀ id ∈ c.nodes, id ∈ f.nodeIds ∨ id ∈ g.nodeIds
  known_edges : ∀ id ∈ c.edges, id ∈ f.edgeIds ∨ id ∈ g.edgeIds
  rest : g = { f with nodes := g.nodes, edges := g.edges, updatedAt := g.updatedAt }

section

variable {c : Change} {f g : Flow}

private theorem find?_filter_of_imp {α : Type} {p q : α → Bool} (h : ∀ a, p a = true → q a = true) (as : List α) :
    (as.filter q).find? p = as.find? p := by
  rw [List.find?_filter]
  refine congrArg (fun p => as.find? p) (funext fun a => ?_)
  cases hp : p a with
  | false => simp
  | true => simp [h a hp]

/-- A node that is added, removed or changed is named. -/
theorem Change.Accounts.node?_eq (h : c.Accounts f g) {id : String} (hid : id ∉ c.nodes) : g.node? id = f.node? id := by
  have hother (n : Node) (hn : (n.id == id) = true) : (!c.nodes.contains n.id) = true := by
    rw [eq_of_beq hn]
    simpa using hid
  rw [node?, node?, ← find?_filter_of_imp hother g.nodes, h.nodes, find?_filter_of_imp hother]

/-- An edge that is added, removed or changed is named. -/
theorem Change.Accounts.edge?_eq (h : c.Accounts f g) {id : String} (hid : id ∉ c.edges) : g.edge? id = f.edge? id := by
  have hother (e : Edge) (he : (e.id == id) = true) : (!c.edges.contains e.id) = true := by
    rw [eq_of_beq he]
    simpa using hid
  rw [edge?, edge?, ← find?_filter_of_imp hother g.edges, h.edges, find?_filter_of_imp hother]

private theorem mem_nodeIds {n : Node} {id : String} (h : f.node? id = some n) : id ∈ f.nodeIds := by
  obtain ⟨hmem, rfl⟩ := mem_of_node?_eq_some h
  exact List.mem_map_of_mem hmem

private theorem mem_edgeIds {e : Edge} {id : String} (h : f.edge? id = some e) : id ∈ f.edgeIds := by
  have hid : e.id = id := by simpa using List.find?_some h
  exact hid ▸ List.mem_map_of_mem (List.mem_of_find?_eq_some h)

/-- What replaces an item has its id, so the items with other ids are the same. -/
private theorem filter_map_replaced {α : Type} {name : α → String} {id : String} {new : α} (hnew : name new = id)
    (as : List α) (p : String → Bool) (hid : p id = false) :
    (as.map fun a => if name a == id then new else a).filter (fun a => p (name a)) = as.filter fun a => p (name a) := by
  induction as with
  | nil => rfl
  | cons a as ih =>
    rw [List.map_cons, List.filter_cons, List.filter_cons, ih]
    by_cases ha : name a = id
    · have hgone : p (name new) = false := by rw [hnew, hid]
      simp [ha, hgone, hid]
    · simp [ha]

/-- A further node is accounted for by its id. -/
theorem accounts_withNode (f : Flow) (n : Node) (kind : ChangeKind) {nodes : List String} (hn : n.id ∈ nodes)
    (hknown : ∀ id ∈ nodes, id = n.id ∨ id ∈ f.nodeIds) : Change.Accounts ⟨kind, nodes, []⟩ f (withNode f n) where
  nodes := by simp [withNode, List.filter_append, hn]
  edges := rfl
  known_nodes := fun id hid => (hknown id hid).symm.imp_right fun h => by simp [h, withNode, nodeIds]
  known_edges := by simp
  rest := rfl

/-- A node that is replaced by another one with its id is accounted for by the id. -/
theorem accounts_setNode {id : String} {n : Node} (hn : f.node? id = some n) (kind : ChangeKind) (n' : Node)
    (hid : n'.id = n.id) : Change.Accounts ⟨kind, [id], []⟩ f (setNode f id n') where
  nodes := by
    have hnew : n'.id = id := hid.trans (mem_of_node?_eq_some hn).2
    exact filter_map_replaced hnew f.nodes (fun s => !([id].contains s)) (by simp)
  edges := rfl
  known_nodes := fun _ h => .inl (List.mem_singleton.1 h ▸ mem_nodeIds hn)
  known_edges := by simp
  rest := rfl

/-- A further edge is accounted for by its id; its ends are named as well. -/
theorem accounts_withEdge (f : Flow) (e : Edge) (kind : ChangeKind) {nodes : List String}
    (hknown : ∀ id ∈ nodes, id ∈ f.nodeIds) : Change.Accounts ⟨kind, nodes, [e.id]⟩ f (withEdge f e) where
  nodes := rfl
  edges := by simp [withEdge, List.filter_append]
  known_nodes := fun id hid => .inl (hknown id hid)
  known_edges := fun id hid => .inr (by simp [List.mem_singleton.1 hid, withEdge, edgeIds])
  rest := rfl

/-- An edge that is replaced by another one with its id is accounted for by the id. -/
theorem accounts_setEdge {id : String} {e : Edge} (he : f.edge? id = some e) (kind : ChangeKind) (e' : Edge)
    (hid : e'.id = e.id) : Change.Accounts ⟨kind, [], [id]⟩ f (setEdge f id e') where
  nodes := rfl
  edges := by
    have hname : e.id = id := by simpa using List.find?_some he
    exact filter_map_replaced (hid.trans hname) f.edges (fun s => !([id].contains s)) (by simp)
  known_nodes := by simp
  known_edges := fun _ h => .inl (List.mem_singleton.1 h ▸ mem_edgeIds he)
  rest := rfl

/-- Nodes and edges that are removed by their ids are accounted for by these. -/
theorem accounts_without (kind : ChangeKind) {nodes edges : List String} (hnodes : ∀ id ∈ nodes, id ∈ f.nodeIds)
    (hedges : ∀ id ∈ edges, id ∈ f.edgeIds) :
    Change.Accounts ⟨kind, nodes, edges⟩ f
      { f with
        nodes := f.nodes.filter fun n => !nodes.contains n.id
        edges := f.edges.filter fun e => !edges.contains e.id } where
  nodes := by simp [List.filter_filter]
  edges := by simp [List.filter_filter]
  known_nodes := fun id hid => .inl (hnodes id hid)
  known_edges := fun id hid => .inl (hedges id hid)
  rest := rfl

/-- The time of change is no node and no edge. -/
theorem Change.Accounts.touch (h : c.Accounts f g) (now : Time.Timestamp) :
    c.Accounts f { g with updatedAt := now } where
  nodes := h.nodes
  edges := h.edges
  known_nodes := h.known_nodes
  known_edges := h.known_edges
  rest := by
    have hrest := h.rest
    rw [hrest]

end

/-! ### Every edit gives a change that accounts for it -/

namespace Editing

variable {α β : Type}

/-- What a step of editing gives satisfies a postcondition, whatever the ids are. -/
def Gives (x : Editing α) (post : α → Prop) : Prop :=
  ∀ ids a ids', x.run.run ids = (.ok a, ids') → post a

theorem gives_pure {a : α} {post : α → Prop} (h : post a) : Gives (pure a) post := by
  intro ids b ids' hrun
  cases hrun
  exact h

theorem gives_any (x : Editing α) : Gives x fun _ => True :=
  fun _ _ _ _ => trivial

theorem gives_refuse {error : GraphError} {post : α → Prop} : Gives (refuse error) post := by
  intro ids a ids' hrun
  cases hrun

/-- What a step gives is what the next one starts from. -/
theorem Gives.bind {x : Editing α} {k : α → Editing β} {post : α → Prop} {post' : β → Prop} (h : Gives x post)
    (hk : ∀ a, post a → Gives (k a) post') : Gives (x >>= k) post' := by
  intro ids b ids' hrun
  rw [ExceptT.run_bind, StateT.run_bind] at hrun
  rcases hx : x.run.run ids with ⟨result, mid⟩
  rw [hx] at hrun
  cases result with
  | ok a => exact hk a (h ids a mid hx) mid b ids' hrun
  | error why => cases hrun

/-- After a refusal nothing is done. -/
theorem gives_refuse_bind {error : GraphError} {k : α → Editing β} {post : β → Prop} :
    Gives (refuse error >>= k) post :=
  (gives_refuse : Gives (refuse error) fun _ => False).bind fun _ h => h.elim

end Editing

open Editing

section

variable {r : Registry} (f : Flow)

private theorem gives_needNode (id : String) : Gives (needNode f id) fun n => f.node? id = some n := by
  unfold needNode
  split
  · next n hn => exact gives_pure hn
  · exact gives_refuse

private theorem gives_needEdge (id : String) : Gives (needEdge f id) fun e => f.edge? id = some e := by
  unfold needEdge
  split
  · next e he => exact gives_pure he
  · exact gives_refuse

/-- The change that comes with the flow after an edit accounts for it. -/
def Accounted (x : Editing (Flow × Change)) : Prop :=
  Gives x fun p => p.2.Accounts f p.1

private theorem accounted_addNode (type : String) (position : Value) : Accounted f (addNode r f type position) := by
  unfold addNode
  split
  · exact gives_refuse
  · next t _ =>
    have hadd : Accounted f (do
        let id ← newId f "node"
        let position ← needPosition (if position.truthy then position else .object [])
        return (withNode f ⟨id, type, position, t.defaultData⟩, ⟨.nodeAdded, [id], []⟩)) := by
      refine (gives_any _).bind fun id _ => (gives_any _).bind fun position _ => gives_pure ?_
      exact accounts_withNode f _ _ List.mem_cons_self (by simp)
    dsimp only
    split
    · split
      · exact gives_refuse_bind
      · exact hadd
    · exact hadd

private theorem accounted_removeNode (id : String) : Accounted f (removeNode f id) := by
  refine (gives_needNode f id).bind fun n hn => gives_pure ?_
  have hnodes : f.nodes.filter (·.id != id) = f.nodes.filter fun n => !([id].contains n.id) :=
    List.filter_congr fun m _ => by simp [bne, Bool.beq_eq_decide_eq]
  dsimp only
  rw [hnodes]
  refine accounts_without _ (fun _ h => List.mem_singleton.1 h ▸ mem_nodeIds hn) fun d hd => ?_
  obtain ⟨e, he, rfl⟩ := List.mem_map.1 hd
  exact List.mem_map_of_mem (List.mem_filter.1 he).1

private theorem accounted_duplicateNode (id : String) : Accounted f (duplicateNode r f id) := by
  refine (gives_needNode f id).bind fun n hn => ?_
  dsimp only
  split
  · exact gives_refuse_bind
  · refine (gives_any _).bind fun copy _ => gives_pure (accounts_withNode f _ _ (by simp) fun d hd => ?_)
    rcases List.mem_cons.1 hd with rfl | hd
    · exact .inr (mem_nodeIds hn)
    · exact .inl (List.mem_singleton.1 hd)

private theorem accounted_moveNode (id : String) (position : Value) : Accounted f (moveNode f id position) := by
  refine (gives_needNode f id).bind fun n hn => (gives_any _).bind fun _ _ => gives_pure ?_
  exact accounts_setNode hn _ _ rfl

private theorem accounted_updateNodeConfig (id : String) (changes : Entries) :
    Accounted f (updateNodeConfig r f id changes) := by
  refine (gives_needNode f id).bind fun n hn => ?_
  split
  · exact gives_refuse
  · split
    · exact gives_pure (accounts_setNode hn _ _ rfl)
    · exact gives_refuse

private theorem accounted_renameNode (id label : String) : Accounted f (renameNode f id label) :=
  (gives_needNode f id).bind fun _ hn => gives_pure (accounts_setNode hn _ _ rfl)

private theorem accounted_addEdge (source target : String) (sourcePort? targetPort? : Option String) :
    Accounted f (addEdge r f source target sourcePort? targetPort?) := by
  unfold addEdge
  split
  · exact gives_refuse
  · exact gives_refuse
  · next s t hs ht =>
    dsimp only
    split
    · exact gives_refuse_bind
    · split
      · exact gives_refuse
      · exact gives_refuse
      · next p q _ _ =>
        split
        · exact gives_refuse_bind
        · refine (gives_any _).bind fun id _ => ?_
          split
          · exact gives_refuse
          · refine gives_pure (accounts_withEdge f ⟨id, source, target, some p.id, some q.id, {}⟩ _ fun d hd => ?_)
            rcases List.mem_cons.1 hd with rfl | hd
            · exact mem_nodeIds hs
            · exact List.mem_singleton.1 hd ▸ mem_nodeIds ht

private theorem accounted_removeEdge (id : String) : Accounted f (removeEdge f id) := by
  refine (gives_needEdge f id).bind fun e he => gives_pure ?_
  have hnodes : f.nodes = f.nodes.filter fun n => !([] : List String).contains n.id := by simp
  have hedges : f.edges.filter (·.id != id) = f.edges.filter fun e => !([id].contains e.id) :=
    List.filter_congr fun m _ => by simp [bne, Bool.beq_eq_decide_eq]
  have haccounts : Change.Accounts ⟨.edgeRemoved, [], [id]⟩ f _ :=
    accounts_without .edgeRemoved (by simp) fun _ h => List.mem_singleton.1 h ▸ mem_edgeIds he
  rw [← hnodes, ← hedges] at haccounts
  exact haccounts

private theorem accounted_updateEdgeData (id : String) (changes : Entries) :
    Accounted f (updateEdgeData f id changes) := by
  refine (gives_needEdge f id).bind fun e he => ?_
  dsimp only
  split
  · exact gives_refuse_bind
  · split
    · exact gives_pure (accounts_setEdge he _ _ rfl)
    · exact gives_refuse

/-- Every edit but the replacement of the flow gives a change that accounts for it. -/
theorem accounted_outcome {e : Edit} (he : ∀ g, e ≠ .replaceFlow g) : Accounted f (outcome r f e) := by
  cases e with
  | addNode type position => exact accounted_addNode f type position
  | removeNode id => exact accounted_removeNode f id
  | duplicateNode id => exact accounted_duplicateNode f id
  | moveNode id position => exact accounted_moveNode f id position
  | updateNodeConfig id changes => exact accounted_updateNodeConfig f id changes
  | renameNode id label => exact accounted_renameNode f id label
  | addEdge source target sourcePort? targetPort? => exact accounted_addEdge f source target sourcePort? targetPort?
  | removeEdge id => exact accounted_removeEdge f id
  | updateEdgeData id changes => exact accounted_updateEdgeData f id changes
  | replaceFlow g => exact absurd rfl (he g)

/-- The time of change makes no difference. -/
theorem accounted_carryOut (now : Time.Timestamp) {e : Edit} (he : ∀ g, e ≠ .replaceFlow g) :
    Accounted f (carryOut r now f e) := by
  refine (accounted_outcome f he).bind fun p hp => gives_pure ?_
  dsimp only
  split
  · exact hp
  · exact hp.touch now

end

/-! ### Who is told -/

namespace Session

/-- What happens in a session: someone joins or leaves, or asks for an edit. -/
inductive Act where
  | subscribe (name : String)
  | unsubscribe (number : Nat)
  | edit (now : Time.Timestamp) (e : Edit)

/-- The session after an act. -/
def act (s : Session) : Act → Session
  | .subscribe name => s.subscribe name
  | .unsubscribe number => s.unsubscribe number
  | .edit now e => (s.edit now e).1

/-- The session after some acts. -/
def after (s : Session) (acts : List Act) : Session :=
  acts.foldl act s

/-- What the listeners are told in the course of an act. -/
def told (s : Session) : Act → List Notice
  | .subscribe _ | .unsubscribe _ => []
  | .edit now e =>
    match (s.edit now e).2 with
    | .error _ => []
    | .ok (_, notices) => notices

/-- The listener with a number leaves. -/
def Act.leaves (number : Nat) : Act → Bool
  | .unsubscribe m => number == m
  | _ => false

/-- Those who have joined in the course of some acts and have not left again, in the order in which they joined.
Others have joined before, and the numbers go on from theirs. -/
def subscribed (joined : Nat) : List Act → List Listener
  | [] => []
  | .subscribe name :: acts =>
    if acts.any (·.leaves (joined + 1)) then subscribed (joined + 1) acts
    else ⟨joined + 1, name⟩ :: subscribed (joined + 1) acts
  | .unsubscribe _ :: acts | .edit _ _ :: acts => subscribed joined acts

/-- Whoever joins gets a number that nobody has had. -/
theorem lt_of_mem_subscribed {joined : Nat} {acts : List Act} {l : Listener} (h : l ∈ subscribed joined acts) :
    joined < l.number := by
  induction acts generalizing joined with
  | nil => cases h
  | cons a acts ih =>
    cases a with
    | unsubscribe | edit => exact ih h
    | subscribe name =>
      have hlater (hmem : l ∈ subscribed (joined + 1) acts) : joined < l.number :=
        Nat.lt_of_succ_lt (ih hmem)
      unfold subscribed at h
      split at h
      · exact hlater h
      · rcases List.mem_cons.1 h with rfl | hmem
        · exact Nat.lt_succ_self joined
        · exact hlater hmem

/-- Nobody is listed twice, and whoever joins later is listed later. -/
theorem pairwise_subscribed (joined : Nat) (acts : List Act) :
    (subscribed joined acts).Pairwise fun l m => l.number < m.number := by
  induction acts generalizing joined with
  | nil => exact .nil
  | cons a acts ih =>
    cases a with
    | unsubscribe | edit => exact ih joined
    | subscribe name =>
      unfold subscribed
      split
      · exact ih _
      · exact .cons (fun _ hm => lt_of_mem_subscribed hm) (ih _)

/-- Those who listen after some acts are those who listened before and have not left, and then those who have joined. -/
theorem listeners_after (s : Session) (acts : List Act) :
    (s.after acts).listeners =
      (s.listeners.filter fun l => !acts.any (·.leaves l.number)) ++ subscribed s.joined acts := by
  induction acts generalizing s with
  | nil => simp [after, subscribed]
  | cons a acts ih =>
    have hafter : s.after (a :: acts) = (s.act a).after acts := rfl
    rw [hafter, ih]
    cases a with
    | subscribe name =>
      have hleaves (l : Listener) : (Act.subscribe name).leaves l.number = false := rfl
      have hact : s.act (.subscribe name) = s.subscribe name := rfl
      simp only [hact, subscribe, subscribed, List.any_cons, hleaves, Bool.false_or, List.filter_append]
      by_cases hleft : acts.any (·.leaves (s.joined + 1)) = true
      · simp [hleft]
      · simp [hleft]
    | unsubscribe number =>
      have hleaves (l : Listener) : (Act.unsubscribe number).leaves l.number = (l.number == number) := rfl
      have hact : s.act (.unsubscribe number) = s.unsubscribe number := rfl
      simp only [hact, unsubscribe, subscribed, List.any_cons, hleaves, List.filter_filter, Bool.not_or, bne,
        Bool.and_comm]
    | edit now e =>
      have hleaves (l : Listener) : (Act.edit now e).leaves l.number = false := rfl
      have hact : s.act (.edit now e) = (s.edit now e).1 := rfl
      have hjoined : (s.edit now e).1.joined = s.joined := by
        unfold edit
        split <;> rfl
      simp only [hact, edit_listeners, hjoined, subscribed, List.any_cons, hleaves, Bool.false_or]

/-- An edit that is carried out tells all listeners of the flow after it, and its change accounts for that flow. -/
theorem edit_of_ok {s : Session} {now : Time.Timestamp} {e : Edit} {change : Change} {notices : List Notice}
    (h : (s.edit now e).2 = .ok (change, notices)) :
    notices = s.notices (s.edit now e).1.flow change ∧
      ((∀ g, e ≠ .replaceFlow g) → change.Accounts s.flow (s.edit now e).1.flow) := by
  have haccounted := accounted_carryOut s.flow (r := s.registry) now (e := e)
  unfold edit at h ⊢
  rcases hrun : (carryOut s.registry now s.flow e).run.run s.ids with ⟨why | ⟨flow, change'⟩, ids⟩
  · rw [hrun] at h
    cases h
  · rw [hrun] at h
    cases h
    exact ⟨rfl, fun he => haccounted he s.ids _ ids hrun⟩

/-- The listeners of a session learn of every edit that is carried out, and of no other one. After whatever acts, an
edit that is refused leaves the flow as it is and tells nobody. One that is carried out tells everyone who has joined
and not left again, once and in the order in which they joined, of the flow after it and of its change; unless the edit
replaces the flow, the change names every node and every edge that is not as it was before, and accounts for the
flow. -/
theorem told_edit (registry : Registry) (flow : Flow) (ids : IdSupply) (acts : List Act) (now : Time.Timestamp)
    (e : Edit) :
    let s := Session.after { registry, flow, ids } acts
    let next := (s.edit now e).1
    (∀ why, (s.edit now e).2 = .error why → next.flow = s.flow ∧ s.told (.edit now e) = []) ∧
      ∀ change notices, (s.edit now e).2 = .ok (change, notices) →
        s.told (.edit now e) = (subscribed 0 acts).map (fun l => ⟨l.name, next.flow, change⟩) ∧
        (subscribed 0 acts).Pairwise (fun l m => l.number < m.number) ∧
        ((∀ g, e ≠ .replaceFlow g) →
          (∀ id, next.flow.node? id ≠ s.flow.node? id → id ∈ change.nodes) ∧
          (∀ id, next.flow.edge? id ≠ s.flow.edge? id → id ∈ change.edges) ∧
          change.Accounts s.flow next.flow) := by
  intro s next
  refine ⟨fun why hrefused => ⟨edit_flow_of_refused hrefused, ?_⟩, fun change notices hdone => ?_⟩
  · rw [told, hrefused]
  · obtain ⟨hnotices, haccounts⟩ := edit_of_ok hdone
    have hlisteners : s.listeners = subscribed 0 acts :=
      (listeners_after { registry, flow, ids } acts).trans (List.nil_append _)
    refine ⟨?_, pairwise_subscribed 0 acts, fun he => ⟨fun id hne => ?_, fun id hne => ?_, haccounts he⟩⟩
    · rw [told, hdone, ← hlisteners]
      exact hnotices
    · exact Decidable.not_not.1 fun hid => hne ((haccounts he).node?_eq hid)
    · exact Decidable.not_not.1 fun hid => hne ((haccounts he).edge?_eq hid)

/-- Two listeners join, the sample is edited, and the first one leaves again. -/
def sampleActs : List Act :=
  [.subscribe "first", .subscribe "second"] ++ sampleEdits.map (.edit default) ++ [.unsubscribe 1]

/-- A session on a new flow after these acts. -/
def attended : Session :=
  after { registry := .builtin, flow := (create .builtin {} default "Sample").flow } sampleActs

/-- Once the first listener has left, the second one alone hears that a node is removed together with its edge, and
nobody hears of the removal of a node that does not exist. -/
theorem told_attended :
    (attended.told (.edit default (.removeNode "node_1"))).map (fun n => (n.listener, n.flow.nodeIds, n.change)) =
        [("second", ["node_2"], ⟨.nodeRemoved, ["node_1"], ["edge_1"]⟩)] ∧
      attended.told (.edit default (.removeNode "node_9")) = [] := by
  have hremoved := told_edit .builtin (create .builtin {} default "Sample").flow {} sampleActs default
    (.removeNode "node_1")
  have hrefused := told_edit .builtin (create .builtin {} default "Sample").flow {} sampleActs default
    (.removeNode "node_9")
  have hsubscribed : subscribed 0 sampleActs = [⟨2, "second"⟩] := by decide +kernel
  constructor
  · have hchange : (attended.edit default (.removeNode "node_1")).2.toOption.map (·.1) =
        some ⟨.nodeRemoved, ["node_1"], ["edge_1"]⟩ := by decide +kernel
    have hnodes : (attended.edit default (.removeNode "node_1")).1.flow.nodeIds = ["node_2"] := by decide +kernel
    rcases hanswer : (attended.edit default (.removeNode "node_1")).2 with why | ⟨change, notices⟩
    · rw [hanswer] at hchange
      cases hchange
    · rw [hanswer] at hchange
      obtain rfl := Option.some.inj hchange
      have htold : attended.told (.edit default (.removeNode "node_1")) = _ := (hremoved.2 _ _ hanswer).1
      rw [htold, hsubscribed]
      exact congrArg (fun ids => [("second", ids, _)]) hnodes
  · have hgone : (attended.edit default (.removeNode "node_9")).2.toOption.map (·.1) = none := by decide +kernel
    rcases hanswer : (attended.edit default (.removeNode "node_9")).2 with why | told
    · exact (hrefused.1 why hanswer).2
    · rw [hanswer] at hgone
      cases hgone

end Session

end IntegrationFlow.Editor
