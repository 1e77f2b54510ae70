import IntegrationFlow.Flow.Cycle
import IntegrationFlow.Flow.Reachability
import Mathlib.Algebra.Ring.Nat
import Mathlib.Data.Fintype.Card
import Mathlib.Data.List.Infix
import Mathlib.Data.Set.Finite.Lemmas
import Mathlib.Logic.Relation

/-!
# Flows without cycles

`Flow.Links` relates the ends of an edge between existing nodes, some edges being cut, and a flow is `Acyclic` when no
path of links leads back to its beginning. The key facts:

* the depth-first search makes all the steps that it needs (`Search.trail_run`);
* cutting the edges that it reports leaves no cycle (`acyclic_closingEdges`);
* every edge that it reports lies on a cycle (`onCycle_of_mem_closingEdges`);
* in an acyclic flow every set of nodes has one to which no links lead from others (`Acyclic.exists_first`).
-/

namespace IntegrationFlow.Flow

open Relation

/-- An edge that is not cut leads from the first id to the second one, and both are ids of nodes. -/
def Links (f : Flow) (cut : List String) (source target : String) : Prop :=
  ∃ e ∈ f.edges, e.id ∉ cut ∧ e.source = source ∧ e.target = target ∧ source ∈ f.nodeIds ∧ target ∈ f.nodeIds

/-- No path of links leads back to where it began. -/
def Acyclic (f : Flow) (cut : List String) : Prop :=
  ∀ id, ¬ TransGen (f.Links cut) id id

/-- No path of links from an id goes on forever. -/
def Ends (f : Flow) (cut : List String) (id : String) : Prop :=
  Acc (fun target source => f.Links cut source target) id

/-- The nodes of a flow are those that are found by their ids. -/
theorem node?_eq_none_iff {f : Flow} {id : String} : f.node? id = none ↔ id ∉ f.nodeIds := by
  simp only [node?, nodeIds, List.find?_eq_none, List.mem_map, not_exists, not_and, beq_iff_eq]

/-- No links lead on from what is no node. -/
theorem ends_of_not_mem {f : Flow} {cut : List String} {id : String} (h : id ∉ f.nodeIds) : f.Ends cut id :=
  Acc.intro _ fun _ ⟨_, _, _, _, _, hid, _⟩ => absurd hid h

/-- From an id from which no path goes on forever, none leads back to it. -/
theorem Ends.not_cycle {f : Flow} {cut : List String} {id : String} (h : f.Ends cut id) :
    ¬ TransGen (f.Links cut) id id := by
  induction h with
  | intro id _ ih =>
    intro hcycle
    obtain ⟨next, hnext, hback⟩ := TransGen.head'_iff.1 hcycle
    exact ih next hnext (TransGen.tail' hback hnext)

namespace Search

/-! ### The search ends -/

/-- How many steps the search still makes: one for every edge that it has not followed and for every node that it has
not left. -/
def remaining (f : Flow) (s : Search) : Nat :=
  (s.trail.map fun t => t.2.length + 1).sum + f.unfollowed s.entered +
    f.nodes.countP fun n => !s.entered.contains n.id

/-- Entering a node turns its edges and itself into steps that the trail still holds. -/
private theorem remaining_enter (f : Flow) (s : Search) {id : String} (hnew : s.entered.contains id = false)
    (hnode : id ∈ f.nodeIds) : (s.enter f id).remaining f ≤ s.remaining f := by
  have hedges := f.unfollowed_cons hnew
  have hnodes : f.nodes.countP (fun n => !(id :: s.entered).contains n.id) + 1 ≤
      f.nodes.countP fun n => !s.entered.contains n.id := by
    obtain ⟨n, hn, rfl⟩ := List.mem_map.1 hnode
    obtain ⟨before, after, hsplit⟩ := List.append_of_mem hn
    have hless : ∀ ns : List Node, ns.countP (fun m => !(n.id :: s.entered).contains m.id) ≤
        ns.countP fun m => !s.entered.contains m.id := by
      intro ns
      apply List.countP_mono_left
      intro m _ hm
      simp only [List.contains_cons, Bool.not_or, Bool.and_eq_true] at hm
      exact hm.2
    have h1 := hless before
    have h2 := hless after
    rw [hsplit]
    simp only [List.countP_append, List.countP_cons, List.contains_cons, beq_self_eq_true, Bool.true_or, Bool.not_true,
      Bool.false_eq_true, if_false, hnew, Bool.not_false, if_true] at h1 h2 ⊢
    omega
  simp only [remaining, enter, List.map_cons, List.sum_cons]
  omega

/-- Every step of a search that is under way leaves fewer to be made. -/
private theorem remaining_step (f : Flow) (s : Search) (h : s.trail ≠ []) :
    (s.step f).remaining f + 1 ≤ s.remaining f := by
  obtain ⟨trail, entered, closing⟩ := s
  cases trail with
  | nil => exact absurd rfl h
  | cons top rest =>
    obtain ⟨id, edges⟩ := top
    cases edges with
    | nil =>
      simp only [step, remaining, List.map_cons, List.sum_cons, List.length_nil]
      omega
    | cons e es =>
      have hless : ({ trail := (id, es) :: rest, entered, closing } : Search).remaining f + 1 ≤
          ({ trail := (id, e :: es) :: rest, entered, closing } : Search).remaining f := by
        simp only [remaining, List.map_cons, List.sum_cons, List.length_cons]
        omega
      simp only [step]
      split
      · simp only [report]
        split
        · exact hless
        · exact hless
      · split
        · exact hless
        · next hnew =>
          simp only [Bool.or_eq_true, not_or, Bool.not_eq_true, Option.isNone_eq_false_iff] at hnew
          have hnode : e.target ∈ f.nodeIds := by
            by_contra hno
            rw [node?_eq_none_iff.2 hno] at hnew
            simp at hnew
          have := remaining_enter f { trail := (id, es) :: rest, entered, closing } hnew.1 hnode
          omega

private theorem run_of_trail_eq_nil (f : Flow) (fuel : Nat) {s : Search} (h : s.trail = []) : run f fuel s = s := by
  induction fuel with
  | zero => rfl
  | succ fuel ih =>
    have hstep : s.step f = s := by
      unfold step
      rw [h]
    rw [run, hstep, ih]

/-- With enough steps the search ends where it began. -/
theorem trail_run (f : Flow) (fuel : Nat) (s : Search) (h : s.remaining f ≤ fuel) : (run f fuel s).trail = [] := by
  induction fuel generalizing s with
  | zero =>
    by_contra hne
    have := remaining_step f s hne
    omega
  | succ fuel ih =>
    by_cases hnil : s.trail = []
    · rw [run_of_trail_eq_nil f _ hnil, hnil]
    · have := remaining_step f s hnil
      exact ih _ (by omega)

/-! ### What the search has left behind -/

/-- Along a trail, every edge of a node is still to be followed, was reported, leads to a node from which no path goes
on forever, or leads to the next node of the trail. -/
def TrailSound (f : Flow) (cut : List String) : Option String → List (String × List Edge) → Prop
  | _, [] => True
  | next?, (id, edges) :: before =>
    (∀ e ∈ f.outgoing id, e ∈ edges ∨ e.id ∈ cut ∨ f.Ends cut e.target ∨ next? = some e.target) ∧
      TrailSound f cut (some id) before

/-- What holds of a search whose reported edges are all cut. -/
structure Sound (f : Flow) (cut : List String) (s : Search) : Prop where
  /-- From a node that was left, no path goes on forever. -/
  ends : ∀ id ∈ s.entered, s.onTrail id = false → f.Ends cut id
  trail : TrailSound f cut none s.trail

/-- When no path from the next node of a trail goes on forever, it need not be told apart from other nodes. -/
private theorem TrailSound.forget {f : Flow} {cut : List String} {id : String} {trail : List (String × List Edge)}
    (h : TrailSound f cut (some id) trail) (hends : f.Ends cut id) : TrailSound f cut none trail := by
  cases trail with
  | nil => trivial
  | cons top before =>
    refine ⟨fun e he => ?_, h.2⟩
    rcases h.1 e he with hin | hcut | hend | hnext
    · exact .inl hin
    · exact .inr (.inl hcut)
    · exact .inr (.inr (.inl hend))
    · obtain rfl : id = e.target := by simpa using hnext
      exact .inr (.inr (.inl hends))

/-- An edge of the top of a trail that needs no more following may be dropped. -/
private theorem TrailSound.drop {f : Flow} {cut : List String} {id : String} {e : Edge} {es : List Edge}
    {before : List (String × List Edge)} {next? : Option String}
    (h : TrailSound f cut none ((id, e :: es) :: before))
    (hdone : e.id ∈ cut ∨ f.Ends cut e.target ∨ next? = some e.target) :
    TrailSound f cut next? ((id, es) :: before) := by
  refine ⟨fun e' he' => ?_, h.2⟩
  rcases h.1 e' he' with hin | hcut | hend | hnext
  · rcases List.mem_cons.1 hin with rfl | hin
    · exact .inr hdone
    · exact .inl hin
  · exact .inr (.inl hcut)
  · exact .inr (.inr (.inl hend))
  · simp at hnext

/-- No path goes on forever from a node all of whose edges are cut or lead to such nodes. -/
private theorem ends_of_outgoing {f : Flow} {cut : List String} {id : String}
    (h : ∀ e ∈ f.outgoing id, e.id ∈ cut ∨ f.Ends cut e.target) : f.Ends cut id := by
  refine Acc.intro _ ?_
  rintro target ⟨e, he, huncut, hs, rfl, -, -⟩
  rcases h e (mem_outgoing.2 ⟨he, hs⟩) with hcut | hends
  · exact absurd hcut huncut
  · exact hends

/-- What was reported stays reported, and what was entered stays entered. -/
private theorem subset_step (f : Flow) (s : Search) :
    s.closing ⊆ (s.step f).closing ∧ s.entered ⊆ (s.step f).entered := by
  have hrefl : s.closing ⊆ s.closing ∧ s.entered ⊆ s.entered := ⟨fun _ h => h, fun _ h => h⟩
  unfold step
  split
  · exact hrefl
  · exact hrefl
  · dsimp only
    split
    · unfold report
      split
      · exact hrefl
      · exact ⟨List.subset_append_left _ _, hrefl.2⟩
    · split
      · exact hrefl
      · exact ⟨hrefl.1, List.subset_cons_self _ _⟩

private theorem subset_run (f : Flow) (fuel : Nat) (s : Search) :
    s.closing ⊆ (run f fuel s).closing ∧ s.entered ⊆ (run f fuel s).entered := by
  induction fuel generalizing s with
  | zero => exact ⟨fun _ h => h, fun _ h => h⟩
  | succ fuel ih =>
    have h1 := subset_step f s
    have h2 := ih (s.step f)
    exact ⟨fun _ h => h2.1 (h1.1 h), fun _ h => h2.2 (h1.2 h)⟩

/-- An edge that is reported has the id of one that closes a cycle. -/
private theorem mem_closing_report (s : Search) (e : Edge) : e.id ∈ (s.report e).closing.map (·.id) := by
  unfold report
  split
  · next h =>
    obtain ⟨e', he', hid⟩ := List.any_eq_true.1 h
    have hid : e'.id = e.id := by simpa using hid
    exact List.mem_map.2 ⟨e', he', hid⟩
  · simp

/-- A step keeps a search sound. -/
private theorem Sound.step {f : Flow} {cut : List String} {s : Search} (h : s.Sound f cut)
    (hcut : (s.step f).closing.map (·.id) ⊆ cut) : (s.step f).Sound f cut := by
  obtain ⟨trail, entered, closing⟩ := s
  obtain ⟨hends, htrail⟩ := h
  cases trail with
  | nil => exact ⟨hends, htrail⟩
  | cons top rest =>
    obtain ⟨id, edges⟩ := top
    cases edges with
    | nil =>
      -- the node is left: all its edges were followed
      have hid : f.Ends cut id := by
        apply ends_of_outgoing
        intro e he
        rcases htrail.1 e he with hin | hc | hend | hnext
        · simp at hin
        · exact .inl hc
        · exact .inr hend
        · simp at hnext
      refine ⟨fun other hother hoff => ?_, htrail.2.forget hid⟩
      by_cases heq : other = id
      · exact heq ▸ hid
      · refine hends other hother ?_
        have hne : (id == other) = false := by simpa using Ne.symm heq
        simpa [onTrail, Search.step, hne] using hoff
    | cons e es =>
      simp only [Search.step] at hcut ⊢
      split at hcut
      · next hon =>
        rw [if_pos hon]
        have hsame := mem_closing_report { trail := (id, es) :: rest, entered, closing } e
        have hdrop : TrailSound f cut none ((id, es) :: rest) := htrail.drop (.inl (hcut hsame))
        unfold report
        split
        · exact ⟨hends, hdrop⟩
        · exact ⟨hends, hdrop⟩
      · next hoff =>
        rw [if_neg hoff]
        split
        · next hskip =>
          refine ⟨hends, htrail.drop (.inr (.inl ?_))⟩
          rcases Bool.or_eq_true_iff.1 hskip with hin | hno
          · exact hends e.target (by simpa using hin) (Bool.eq_false_of_not_eq_true hoff)
          · exact ends_of_not_mem (node?_eq_none_iff.1 (by simpa using hno))
        · refine ⟨fun other hother hout => ?_, ?_, htrail.drop (.inr (.inr rfl))⟩
          · simp only [onTrail, enter, List.any_cons, Bool.or_eq_false_iff] at hout
            have hne : other ≠ e.target := fun heq => by simp [heq] at hout
            have hold : other ∈ entered := (List.mem_cons.1 hother).resolve_left hne
            exact hends other hold (by simpa only [onTrail, List.any_cons, Bool.or_eq_false_iff] using hout.2)
          · exact fun e' he' => .inl he'

/-- A run keeps a search sound. -/
private theorem Sound.run {f : Flow} {cut : List String} (fuel : Nat) {s : Search} (h : s.Sound f cut)
    (hcut : (Search.run f fuel s).closing.map (·.id) ⊆ cut) : (Search.run f fuel s).Sound f cut := by
  induction fuel generalizing s with
  | zero => exact h
  | succ fuel ih =>
    have hgrow := (subset_run f fuel (s.step f)).1
    have hstep : (s.step f).closing.map (·.id) ⊆ cut := fun id hid => hcut (List.map_subset _ hgrow hid)
    exact ih (h.step hstep) hcut

/-! ### All nodes are searched -/

/-- A search that has left every node that it entered. -/
structure Done (f : Flow) (cut : List String) (s : Search) : Prop extends s.Sound f cut where
  trail_eq : s.trail = []

private theorem subset_searchFrom (f : Flow) (s : Search) (id : String) :
    s.closing ⊆ (s.searchFrom f id).closing ∧ s.entered ⊆ (s.searchFrom f id).entered ∧
      id ∈ (s.searchFrom f id).entered := by
  unfold searchFrom
  split
  · next h => exact ⟨fun _ h => h, fun _ h => h, by simpa using h⟩
  · have hgrow := subset_run f (f.edges.length + f.nodes.length + 1) (s.enter f id)
    exact ⟨hgrow.1, fun _ h => hgrow.2 (List.mem_cons_of_mem _ h), hgrow.2 List.mem_cons_self⟩

/-- A search from one more node comes to its end. -/
private theorem Done.searchFrom {f : Flow} {cut : List String} {s : Search} (h : s.Done f cut) {id : String}
    (hnode : id ∈ f.nodeIds) (hcut : (s.searchFrom f id).closing.map (·.id) ⊆ cut) :
    (s.searchFrom f id).Done f cut := by
  unfold Search.searchFrom at hcut ⊢
  split
  · exact h
  · next hnew =>
    rw [if_neg hnew] at hcut
    have hnew : s.entered.contains id = false := by simpa using hnew
    have hall : s.remaining f ≤ f.edges.length + f.nodes.length := by
      have h1 := List.countP_le_length (p := fun e : Edge => !s.entered.contains e.source) (l := f.edges)
      have h2 := List.countP_le_length (p := fun n : Node => !s.entered.contains n.id) (l := f.nodes)
      simp only [remaining, unfollowed, h.trail_eq, List.map_nil, List.sum_nil]
      omega
    have henter := remaining_enter f s hnew hnode
    have hsound : (s.enter f id).Sound f cut := by
      refine ⟨fun other hother hoff => ?_, fun e he => .inl he, ?_⟩
      · simp only [onTrail, enter, List.any_cons, Bool.or_eq_false_iff] at hoff
        have hne : other ≠ id := fun heq => by simp [heq] at hoff
        exact h.ends other ((List.mem_cons.1 hother).resolve_left hne) hoff.2
      · rw [h.trail_eq]
        trivial
    exact ⟨hsound.run _ hcut, trail_run f _ _ (by omega)⟩

/-- Search from the nodes one after another. -/
def searchAll (f : Flow) (s : Search) (nodes : List Node) : Search :=
  nodes.foldl (fun s n => s.searchFrom f n.id) s

private theorem subset_searchAll (f : Flow) (nodes : List Node) (s : Search) :
    s.closing ⊆ (s.searchAll f nodes).closing ∧ s.entered ⊆ (s.searchAll f nodes).entered ∧
      ∀ n ∈ nodes, n.id ∈ (s.searchAll f nodes).entered := by
  induction nodes generalizing s with
  | nil => exact ⟨fun _ h => h, fun _ h => h, by simp⟩
  | cons n ns ih =>
    obtain ⟨hclosing, hentered, hn⟩ := subset_searchFrom f s n.id
    obtain ⟨hclosing', hentered', hns⟩ := ih (s.searchFrom f n.id)
    refine ⟨fun _ h => hclosing' (hclosing h), fun _ h => hentered' (hentered h), fun m hm => ?_⟩
    rcases List.mem_cons.1 hm with rfl | hm
    · exact hentered' hn
    · exact hns m hm

private theorem Done.searchAll {f : Flow} {cut : List String} (nodes : List Node) {s : Search} (h : s.Done f cut)
    (hnodes : nodes ⊆ f.nodes) (hcut : (s.searchAll f nodes).closing.map (·.id) ⊆ cut) :
    (s.searchAll f nodes).Done f cut := by
  induction nodes generalizing s with
  | nil => exact h
  | cons n ns ih =>
    have hgrow := (subset_searchAll f ns (s.searchFrom f n.id)).1
    have hnode : n.id ∈ f.nodeIds := List.mem_map_of_mem (hnodes List.mem_cons_self)
    have hfirst : (s.searchFrom f n.id).Done f cut :=
      h.searchFrom hnode fun id hid => hcut (List.map_subset _ hgrow hid)
    exact ih hfirst (fun _ hm => hnodes (List.mem_cons_of_mem _ hm)) hcut

/-- Each of the searches comes to its end: from whichever of the first nodes it was begun, no node is left on the
trail. -/
theorem trail_searchAll_take (f : Flow) (i : Nat) : (({} : Search).searchAll f (f.nodes.take i)).trail = [] := by
  have hstart (cut : List String) : ({} : Search).Done f cut := ⟨⟨by simp, trivial⟩, rfl⟩
  exact ((hstart _).searchAll _ (List.take_subset i f.nodes) fun _ h => h).trail_eq

end Search

/-- Once the edges are cut that the search reports, no cycle is left. -/
theorem acyclic_closingEdges (f : Flow) : f.Acyclic (f.closingEdges.map (·.id)) := by
  have hstart : ({} : Search).Done f (f.closingEdges.map (·.id)) := ⟨⟨by simp, trivial⟩, rfl⟩
  have hdone := hstart.searchAll f.nodes (fun _ h => h) (fun _ h => h)
  have hall := (Search.subset_searchAll f f.nodes {}).2.2
  intro id hcycle
  have hnode : id ∈ f.nodeIds := by
    obtain ⟨_, ⟨_, _, _, _, _, hid, _⟩, _⟩ := TransGen.head'_iff.1 hcycle
    exact hid
  obtain ⟨n, hn, rfl⟩ := List.mem_map.1 hnode
  have hends := hdone.ends n.id (hall n hn) (by simp [Search.onTrail, hdone.trail_eq])
  exact hends.not_cycle hcycle

/-- In an acyclic flow no path of links goes back forever. -/
theorem Acyclic.wellFounded {f : Flow} {cut : List String} (h : f.Acyclic cut) :
    WellFounded fun a b : { id // id ∈ f.nodeIds } => TransGen (f.Links cut) a.1 b.1 := by
  have htrans : IsTrans { id // id ∈ f.nodeIds } fun a b => TransGen (f.Links cut) a.1 b.1 :=
    ⟨fun _ _ _ hab hbc => TransGen.trans hab hbc⟩
  have hirrefl : Std.Irrefl fun a b : { id // id ∈ f.nodeIds } => TransGen (f.Links cut) a.1 b.1 :=
    ⟨fun a ha => h a.1 ha⟩
  exact Finite.wellFounded_of_trans_of_irrefl _

/-- In an acyclic flow, every set of nodes has one to which no links lead from others of the set. -/
theorem Acyclic.exists_first {f : Flow} {cut : List String} (h : f.Acyclic cut) {p : String → Prop}
    (hp : ∀ id, p id → id ∈ f.nodeIds) (hany : ∃ id, p id) :
    ∃ id, p id ∧ ∀ before, p before → ¬ f.Links cut before id := by
  obtain ⟨id, hid⟩ := hany
  obtain ⟨first, hfirst, hmin⟩ := h.wellFounded.has_min { a | p a.1 } ⟨⟨id, hp id hid⟩, hid⟩
  refine ⟨first.1, hfirst, fun other hother hlink => ?_⟩
  exact hmin ⟨other, hp other hother⟩ hother (TransGen.single hlink)

/-! ### The reported edges lie on cycles -/

/-- The edge links two nodes, and links lead from its target back to its source. -/
structure OnCycle (f : Flow) (e : Edge) : Prop where
  mem : e ∈ f.edges
  link : f.Links [] e.source e.target
  back : ReflTransGen (f.Links []) e.target e.source

/-- There is no such edge in an acyclic flow. -/
theorem Acyclic.not_onCycle {f : Flow} (h : f.Acyclic []) (e : Edge) : ¬ f.OnCycle e :=
  fun hcycle => h e.source (TransGen.head' hcycle.link hcycle.back)

namespace Search

/-- Links lead along the trail to the current node, the edges that are still to be followed leave the nodes of the
trail, and those that were reported lie on cycles. -/
structure Linked (f : Flow) (s : Search) : Prop where
  path : s.trail.Pairwise fun t before => TransGen (f.Links []) before.1 t.1
  nodes : ∀ t ∈ s.trail, t.1 ∈ f.nodeIds ∧ t.2 ⊆ f.outgoing t.1
  closing : ∀ e ∈ s.closing, f.OnCycle e

/-- An edge that leads to a node of the trail lies on a cycle. -/
private theorem Linked.onCycle {f : Flow} {s : Search} (h : s.Linked f) {id : String} {e : Edge} {es : List Edge}
    {rest : List (String × List Edge)} (htrail : s.trail = (id, e :: es) :: rest)
    (hon : e.target = id ∨ ∃ t ∈ rest, t.1 = e.target) : f.OnCycle e := by
  obtain ⟨hpath, hnodes, -⟩ := h
  rw [htrail] at hpath hnodes
  obtain ⟨hid, hedges⟩ := hnodes _ List.mem_cons_self
  obtain ⟨hmem, hsource⟩ := mem_outgoing.1 (hedges List.mem_cons_self)
  have hback : e.target ∈ f.nodeIds ∧ ReflTransGen (f.Links []) e.target id := by
    rcases hon with hself | ⟨t, ht, hsame⟩
    · rw [hself]
      exact ⟨hid, ReflTransGen.refl⟩
    · rw [← hsame]
      exact ⟨(hnodes t (List.mem_cons_of_mem _ ht)).1, ((List.pairwise_cons.1 hpath).1 t ht).to_reflTransGen⟩
  exact ⟨hmem, ⟨e, hmem, List.not_mem_nil, rfl, rfl, hsource ▸ hid, hback.1⟩, hsource ▸ hback.2⟩

private theorem Linked.report {f : Flow} {s : Search} (h : s.Linked f) {e : Edge} (he : f.OnCycle e) :
    (s.report e).Linked f := by
  unfold Search.report
  split
  · exact h
  · refine ⟨h.path, h.nodes, fun d hd => ?_⟩
    rcases List.mem_append.1 hd with hd | hd
    · exact h.closing d hd
    · exact List.mem_singleton.1 hd ▸ he

private theorem Linked.enter {f : Flow} {s : Search} (h : s.Linked f) {id : String} (hid : id ∈ f.nodeIds)
    (hpath : ∀ t ∈ s.trail, TransGen (f.Links []) t.1 id) : (s.enter f id).Linked f where
  path := List.pairwise_cons.2 ⟨hpath, h.path⟩
  nodes := List.forall_mem_cons.2 ⟨⟨hid, fun _ he => he⟩, h.nodes⟩
  closing := h.closing

/-- A step follows an edge of the current node, so the trail stays a path. -/
private theorem Linked.step {f : Flow} {s : Search} (h : s.Linked f) : (s.step f).Linked f := by
  obtain ⟨trail, entered, closing⟩ := s
  match trail, h with
  | [], h => exact h
  | (id, []) :: rest, h =>
    exact ⟨(List.pairwise_cons.1 h.path).2, (List.forall_mem_cons.1 h.nodes).2, h.closing⟩
  | (id, e :: es) :: rest, h =>
    obtain ⟨hnode, hrest⟩ := List.forall_mem_cons.1 h.nodes
    obtain ⟨hmem, hsource⟩ := mem_outgoing.1 (hnode.2 List.mem_cons_self)
    -- What is known of the trail does not depend on the edges that are still to be followed.
    have hfollowed : (⟨(id, es) :: rest, entered, closing⟩ : Search).Linked f :=
      ⟨List.pairwise_cons.2 (List.pairwise_cons.1 h.path),
        List.forall_mem_cons.2 ⟨⟨hnode.1, fun d hd => hnode.2 (List.mem_cons_of_mem _ hd)⟩, hrest⟩, h.closing⟩
    simp only [Search.step]
    split
    · next hon =>
      refine hfollowed.report (h.onCycle rfl ?_)
      obtain ⟨t, ht, heq⟩ := List.any_eq_true.1 hon
      rcases List.mem_cons.1 ht with rfl | ht
      · exact .inl (eq_of_beq heq).symm
      · exact .inr ⟨t, ht, eq_of_beq heq⟩
    · split
      · exact hfollowed
      · next hnew =>
        simp only [Bool.or_eq_true, not_or, Bool.not_eq_true, Option.isNone_eq_false_iff] at hnew
        obtain ⟨n, hn⟩ := Option.isSome_iff_exists.1 hnew.2
        obtain ⟨hdeclared, hid⟩ := mem_of_node?_eq_some hn
        have htarget : e.target ∈ f.nodeIds := hid ▸ List.mem_map_of_mem hdeclared
        have hlink : f.Links [] id e.target := ⟨e, hmem, List.not_mem_nil, hsource, rfl, hnode.1, htarget⟩
        refine hfollowed.enter htarget (List.forall_mem_cons.2 ⟨TransGen.single hlink, fun t ht => ?_⟩)
        exact ((List.pairwise_cons.1 h.path).1 t ht).tail hlink

private theorem Linked.run {f : Flow} (fuel : Nat) {s : Search} (h : s.Linked f) : (Search.run f fuel s).Linked f := by
  induction fuel generalizing s with
  | zero => exact h
  | succ fuel ih => exact ih h.step

/-- A new search begins where the one before has come to its end. -/
private theorem Linked.searchFrom {f : Flow} {s : Search} (h : s.Linked f) (hend : s.trail = []) {id : String}
    (hid : id ∈ f.nodeIds) : (s.searchFrom f id).Linked f := by
  unfold Search.searchFrom
  split
  · exact h
  · refine Linked.run _ (h.enter hid ?_)
    rw [hend]
    exact List.forall_mem_nil _

private theorem Linked.searchAll {f : Flow} {cut : List String} (nodes : List Node) {s : Search} (h : s.Linked f)
    (hdone : s.Done f cut) (hnodes : nodes ⊆ f.nodes) (hcut : (s.searchAll f nodes).closing.map (·.id) ⊆ cut) :
    (s.searchAll f nodes).Linked f := by
  induction nodes generalizing s with
  | nil => exact h
  | cons n ns ih =>
    have hgrow := (subset_searchAll f ns (s.searchFrom f n.id)).1
    have hnode : n.id ∈ f.nodeIds := List.mem_map_of_mem (hnodes List.mem_cons_self)
    have hfirst : (s.searchFrom f n.id).Done f cut :=
      hdone.searchFrom hnode fun id hid => hcut (List.map_subset _ hgrow hid)
    exact ih (h.searchFrom hdone.trail_eq hnode) hfirst (fun _ hm => hnodes (List.mem_cons_of_mem _ hm)) hcut

end Search

/-- Every edge that the search reports lies on a cycle. -/
theorem onCycle_of_mem_closingEdges {f : Flow} {e : Edge} (he : e ∈ f.closingEdges) : f.OnCycle e := by
  have hlinked : ({} : Search).Linked f := ⟨List.Pairwise.nil, by simp, by simp⟩
  have hdone : ({} : Search).Done f (f.closingEdges.map (·.id)) := ⟨⟨by simp, trivial⟩, rfl⟩
  exact (hlinked.searchAll f.nodes hdone (fun _ h => h) fun _ h => h).closing e he

/-- The search reports nothing exactly when there is no cycle. -/
theorem closingEdges_eq_nil_iff {f : Flow} : f.closingEdges = [] ↔ f.Acyclic [] := by
  constructor
  · intro hnone
    simpa [hnone] using f.acyclic_closingEdges
  · intro hacyclic
    rw [List.eq_nil_iff_forall_not_mem]
    exact fun e he => hacyclic.not_onCycle e (onCycle_of_mem_closingEdges he)

end IntegrationFlow.Flow
