import IntegrationFlow.Editor.Session
import IntegrationFlow.Proofs.Editor.Consistent
import IntegrationFlow.Proofs.Editor.IdSupply

/-!
# Edited flows are consistent

However a flow is edited, it stays consistent (`consistent_of_edited`): every edit that is carried out gives a consistent
flow (`yields_outcome`), and one that is refused gives none. `Editing.Yields` says what a step of editing gives when no
id is repeated; the rules for it follow the way in which the steps are put together.
-/

namespace IntegrationFlow.Editor

open IntegrationFlow.Flow

/-! ### Steps of editing -/

namespace Editing

variable {α β : Type}

/-- As long as ids are not repeated, what a step of editing gives satisfies a postcondition, and ids will not be
repeated afterwards. -/
def Yields (x : Editing α) (post : α → Prop) : Prop :=
  ∀ ids : IdSupply, ids.NeverRepeats → (x.run.run ids).2.NeverRepeats ∧ ∀ a, (x.run.run ids).1 = .ok a → post a

theorem yields_pure {a : α} {post : α → Prop} (h : post a) : Yields (pure a) post :=
  fun _ hids => ⟨hids, fun _ heq => Except.ok.inj heq ▸ h⟩

theorem yields_throw {why : Refusal} {post : α → Prop} : Yields (throw why) post :=
  fun _ hids => ⟨hids, fun _ heq => by cases heq⟩

theorem yields_refuse {error : GraphError} {post : α → Prop} : Yields (refuse error) post :=
  yields_throw

/-- What a step gives is what the next one starts from. -/
theorem Yields.bind {x : Editing α} {k : α → Editing β} {post : α → Prop} {post' : β → Prop} (h : Yields x post)
    (hk : ∀ a, post a → Yields (k a) post') : Yields (x >>= k) post' := by
  intro ids hids
  have hbind : (x >>= k).run.run ids = match x.run.run ids with
      | (.ok a, ids') => (k a).run.run ids'
      | (.error why, ids') => (.error why, ids') := by
    rw [ExceptT.run_bind, StateT.run_bind]
    rcases x.run.run ids with ⟨result, ids'⟩
    cases result <;> rfl
  obtain ⟨hids', hpost⟩ := h ids hids
  rw [hbind]
  rcases hrun : x.run.run ids with ⟨result, ids'⟩
  rw [hrun] at hids' hpost
  cases result with
  | ok a => exact hk a (hpost a rfl) ids' hids'
  | error why => exact ⟨hids', fun _ heq => by cases heq⟩

/-- After a refusal nothing is done. -/
theorem yields_refuse_bind {error : GraphError} {k : α → Editing β} {post : β → Prop} :
    Yields (refuse error >>= k) post :=
  (yields_refuse : Yields (refuse error) fun _ => False).bind fun _ h => h.elim

end Editing

open Editing

variable {r : Registry} {f : Flow}

/-- A new id is that of no node and of no edge. -/
private theorem yields_newId (f : Flow) (stem : String) :
    Yields (newId f stem) fun id => id ∉ f.nodeIds ∧ id ∉ f.edgeIds := by
  intro ids hids
  have hrun : (newId f stem).run.run ids =
      (.ok (ids.fresh stem (f.nodeIds ++ f.edgeIds)).1, (ids.fresh stem (f.nodeIds ++ f.edgeIds)).2) := rfl
  have hfree := hids.fresh_not_mem stem (f.nodeIds ++ f.edgeIds)
  rw [List.mem_append, not_or] at hfree
  rw [hrun]
  exact ⟨hids.fresh _ _, fun _ heq => Except.ok.inj heq ▸ hfree⟩

private theorem yields_needNode (f : Flow) (id : String) : Yields (needNode f id) fun n => f.node? id = some n := by
  unfold needNode
  split
  · next n hn => exact yields_pure hn
  · exact yields_refuse

private theorem yields_needEdge (f : Flow) (id : String) : Yields (needEdge f id) fun e => f.edge? id = some e := by
  unfold needEdge
  split
  · next e he => exact yields_pure he
  · exact yields_refuse

private theorem yields_needPosition (v : Value) : Yields (needPosition v) fun _ => True := by
  unfold needPosition
  split
  · exact yields_pure trivial
  · exact yields_throw

/-! ### Edits -/

private theorem find?_of_lookup {type : String} {t : NodeType} (h : r.lookup type = .ok t) : r.find? type = some t := by
  unfold Registry.lookup at h
  split at h
  · next t' hfind => rw [hfind, Except.ok.inj h]
  · cases h

private theorem yields_addNode (h : Consistent r f) (type : String) (position : Value) :
    Yields (addNode r f type position) fun p => Consistent r p.1 := by
  unfold addNode
  split
  · exact yields_refuse
  · next t ht =>
    have hfind := find?_of_lookup ht
    -- A node is added when it is no entry point, or when the flow has none yet.
    have hadd (hfree : f.nodes.find? r.isIngress = none ∨ t.category ≠ .input) :
        Yields (do
          let id ← newId f "node"
          let position ← needPosition (if position.truthy then position else .object [])
          return (withNode f ⟨id, type, position, t.defaultData⟩, ⟨.nodeAdded, [id], []⟩))
          fun p : Flow × Change => Consistent r p.1 := by
      refine (yields_newId f "node").bind fun id hid => (yields_needPosition _).bind fun position _ => yields_pure ?_
      refine h.withNode hid.1 ?_ (fun hinput => ?_) fun hbuiltin t' ht' => ?_
      · rw [Registry.contains, hfind]
        rfl
      · rcases hfree with hnone | hother
        · exact List.filter_eq_nil_iff.2 (List.find?_eq_none.1 hnone)
        · simp [Registry.isIngress, hfind, hother] at hinput
      · obtain rfl : t = t' := Option.some.inj (hfind.symm.trans ht')
        rw [hbuiltin] at hfind
        obtain ⟨k, rfl, -⟩ := Registry.exists_kind_of_find?_builtin hfind
        exact k.typeProblems_defaults
    dsimp only
    split
    · split
      · exact yields_refuse_bind
      · next hother => exact hadd (.inr hother)
    · next hnone => exact hadd (.inl hnone)

private theorem yields_removeNode (h : Consistent r f) (id : String) :
    Yields (removeNode f id) fun p => Consistent r p.1 := by
  refine (yields_needNode f id).bind fun _ _ => yields_pure (h.filter _ _ fun e he hkept n _ hend => ?_)
  -- An edge that stays is none of those that touch the node, for these go by their ids.
  have htouches : ¬ (e.source = id ∨ e.target = id) := by
    intro htouch
    have hgone : e.id ∈ (f.edges.filter fun e => e.source == id || e.target == id).map (·.id) :=
      List.mem_map_of_mem (List.mem_filter.2 ⟨he, by simpa using htouch⟩)
    simp [hgone] at hkept
  rw [not_or] at htouches
  rcases hend with hend | hend
  · simpa [hend] using htouches.1
  · simpa [hend] using htouches.2

private theorem yields_duplicateNode (h : Consistent r f) (id : String) :
    Yields (duplicateNode r f id) fun p => Consistent r p.1 := by
  refine (yields_needNode f id).bind fun n hn => ?_
  have hmem := (mem_of_node?_eq_some hn).1
  dsimp only
  split
  · exact yields_refuse_bind
  · next hother =>
    refine (yields_newId f "node").bind fun copy hcopy => yields_pure ?_
    refine h.withNode hcopy.1 (h.sound.types n hmem) (fun hinput => absurd hinput hother) fun hbuiltin => ?_
    exact h.typed hbuiltin n hmem

private theorem yields_moveNode (h : Consistent r f) (id : String) (position : Value) :
    Yields (moveNode f id position) fun p => Consistent r p.1 := by
  refine (yields_needNode f id).bind fun n hn => (yields_needPosition position).bind fun _ _ => yields_pure ?_
  exact h.setNode hn rfl rfl rfl rfl fun hbuiltin => h.typed hbuiltin n (mem_of_node?_eq_some hn).1

private theorem yields_renameNode (h : Consistent r f) (id label : String) :
    Yields (renameNode f id label) fun p => Consistent r p.1 := by
  refine (yields_needNode f id).bind fun n hn => yields_pure ?_
  exact h.setNode hn rfl rfl rfl rfl fun hbuiltin => h.typed hbuiltin n (mem_of_node?_eq_some hn).1

private theorem yields_updateNodeConfig (h : Consistent r f) (id : String) {changes : Entries}
    (hdistinct : changes.Distinct) : Yields (updateNodeConfig r f id changes) fun p => Consistent r p.1 := by
  refine (yields_needNode f id).bind fun n hn => ?_
  split
  · exact yields_refuse
  · next t ht =>
    have hfind := find?_of_lookup ht
    split
    · next hnew =>
      refine yields_pure (h.setNode hn rfl rfl rfl rfl fun hbuiltin t' ht' => ?_)
      obtain rfl : t = t' := Option.some.inj (hfind.symm.trans ht')
      exact NodeType.typeProblems_merge hdistinct (h.typed hbuiltin n (mem_of_node?_eq_some hn).1 t hfind) hnew
    · exact yields_refuse

/-- A port that was found is found by its own id. -/
theorem findPort_id {ports : List Port} {id? : Option String} {p : Port} (h : findPort ports id? = some p) :
    findPort ports (some p.id) = some p := by
  cases id? with
  | none =>
    cases ports with
    | nil => cases h
    | cons q qs =>
      obtain rfl : q = p := Option.some.inj h
      simp [findPort]
  | some id =>
    have hid : p.id = id := by simpa using List.find?_some h
    rw [hid]
    exact h

private theorem yields_addEdge (h : Consistent r f) (source target : String) (sourcePort? targetPort? : Option String) :
    Yields (addEdge r f source target sourcePort? targetPort?) fun p => Consistent r p.1 := by
  unfold addEdge
  split
  · exact yields_refuse
  · exact yields_refuse
  · next s t hs ht =>
    dsimp only
    split
    · exact yields_refuse_bind
    · next hother =>
      split
      · exact yields_refuse
      · exact yields_refuse
      · next p q hp hq =>
        split
        · exact yields_refuse_bind
        · next hfit =>
          refine (yields_newId f "edge").bind fun id hid => ?_
          split
          · exact yields_refuse
          · next hnew =>
            refine yields_pure (h.withEdge hid.2 ⟨hs, ht, ?_⟩ (fun d hd => ?_) (by simpa using hother))
            · exact Validator.portFindings_eq_nil_iff.2 ⟨p, q, findPort_id hp, findPort_id hq, by simpa using hfit⟩
            · simpa using List.find?_eq_none.1 hnew d hd

private theorem yields_removeEdge (h : Consistent r f) (id : String) :
    Yields (removeEdge f id) fun p => Consistent r p.1 := by
  refine (yields_needEdge f id).bind fun _ _ => yields_pure ?_
  have hfilter := h.filter (fun _ => true) (·.id != id) fun _ _ _ _ _ _ => rfl
  exact hfilter.congr (List.filter_true _).symm rfl

private theorem yields_updateEdgeData (h : Consistent r f) (id : String) (changes : Entries) :
    Yields (updateEdgeData f id changes) fun p => Consistent r p.1 := by
  refine (yields_needEdge f id).bind fun e he => ?_
  dsimp only
  split
  · exact yields_refuse_bind
  · split
    · exact yields_pure (h.setEdge he ⟨rfl, rfl, rfl, rfl, rfl⟩)
    · exact yields_refuse

/-- What is asked of an edit: an object holds no key twice, and a flow that replaces another one is consistent. -/
def Edit.Admissible (r : Registry) : Edit → Prop
  | .updateNodeConfig _ changes => changes.Distinct
  | .replaceFlow g => Consistent r g
  | _ => True

/-- Every edit of a consistent flow gives a consistent flow. -/
theorem yields_outcome (h : Consistent r f) {e : Edit} (he : e.Admissible r) :
    Yields (outcome r f e) fun p => Consistent r p.1 := by
  cases e with
  | addNode type position => exact yields_addNode h type position
  | removeNode id => exact yields_removeNode h id
  | duplicateNode id => exact yields_duplicateNode h id
  | moveNode id position => exact yields_moveNode h id position
  | updateNodeConfig id changes => exact yields_updateNodeConfig h id he
  | renameNode id label => exact yields_renameNode h id label
  | addEdge source target sourcePort? targetPort? => exact yields_addEdge h source target sourcePort? targetPort?
  | removeEdge id => exact yields_removeEdge h id
  | updateEdgeData id changes => exact yields_updateEdgeData h id changes
  | replaceFlow g => exact yields_pure he

/-- The time of change makes no difference. -/
theorem yields_carryOut (h : Consistent r f) (now : Time.Timestamp) {e : Edit} (he : e.Admissible r) :
    Yields (carryOut r now f e) fun p => Consistent r p.1 := by
  refine (yields_outcome h he).bind fun p hp => yields_pure ?_
  split
  · exact hp
  · exact hp.congr rfl rfl

/-! ### Sessions -/

/-- A session that has come about by edits, carried out or refused: it began with a new flow, or with one that was
consistent, and its ids are not repeated. -/
inductive Session.Edited : Session → Prop
  | create (registry : Registry) {ids : IdSupply} (hids : ids.NeverRepeats) (now : Time.Timestamp) (name : String) :
    Edited (Session.create registry ids now name)
  | opened {s : Session} (hflow : Consistent s.registry s.flow) (hids : s.ids.NeverRepeats) : Edited s
  | edit {s : Session} (hs : Edited s) (now : Time.Timestamp) {e : Edit} (he : e.Admissible s.registry) :
    Edited (s.edit now e).1

/-- An edit keeps the flow of a session consistent and its ids free of repetitions, whether it is refused or not. -/
theorem Session.consistent_edit {s : Session} (hflow : Consistent s.registry s.flow) (hids : s.ids.NeverRepeats)
    (now : Time.Timestamp) {e : Edit} (he : e.Admissible s.registry) :
    Consistent (s.edit now e).1.registry (s.edit now e).1.flow ∧ (s.edit now e).1.ids.NeverRepeats := by
  obtain ⟨hids', hpost⟩ := yields_carryOut hflow now he s.ids hids
  unfold Session.edit
  rcases hrun : (carryOut s.registry now s.flow e).run.run s.ids with ⟨result, ids⟩
  rw [hrun] at hids' hpost
  cases result with
  | ok p => exact ⟨hpost p rfl, hids'⟩
  | error why => exact ⟨hflow, hids'⟩

/-- However a flow is edited, it is consistent. -/
theorem consistent_of_edited {s : Session} (h : s.Edited) : Consistent s.registry s.flow := by
  suffices hboth : Consistent s.registry s.flow ∧ s.ids.NeverRepeats from hboth.1
  induction h with
  | create registry hids now name => exact ⟨consistent_of_empty rfl rfl, hids.draw "flow"⟩
  | opened hflow hids => exact ⟨hflow, hids⟩
  | edit _ now he ih => exact Session.consistent_edit ih.1 ih.2 now he

private theorem edited_foldl {s : Session} (h : s.Edited) (now : Time.Timestamp) {edits : List Edit}
    (hedits : ∀ e ∈ edits, e.Admissible s.registry) : (edits.foldl (fun s e => (s.edit now e).1) s).Edited := by
  induction edits generalizing s with
  | nil => exact h
  | cons e edits ih =>
    have hregistry : (s.edit now e).1.registry = s.registry := by
      unfold Session.edit
      split <;> rfl
    refine ih (h.edit now (hedits e List.mem_cons_self)) fun e' he' => ?_
    rw [hregistry]
    exact hedits e' (List.mem_cons_of_mem _ he')

/-- Two nodes and an edge are added to a flow, and a copy that is removed again. No second entry point is added. -/
def sampleEdits : List Edit :=
  [.addNode "http-ingress" .null, .addNode "transform" .null, .addEdge "node_1" "node_2" none none,
    .updateNodeConfig "node_2" [(.text "code", .text "input")], .duplicateNode "node_2",
    .addNode "http-ingress" .null, .removeNode "node_3"]

/-- A new flow after the edits. -/
def sample : Session :=
  sampleEdits.foldl (fun s e => (s.edit default e).1) (Session.create .builtin {} default "Sample")

theorem consistent_sample : sample.Edited ∧ sample.flow.nodeIds = ["node_1", "node_2"] ∧
    sample.flow.edgeIds = ["edge_1"] ∧ Consistent sample.registry sample.flow := by
  have hedited : sample.Edited := by
    refine edited_foldl (.create .builtin (IdSupply.neverRepeats_counted []) default "Sample") default ?_
    simp [sampleEdits, Edit.Admissible, Entries.Distinct]
  exact ⟨hedited, by decide +kernel, by decide +kernel, consistent_of_edited hedited⟩

end IntegrationFlow.Editor
