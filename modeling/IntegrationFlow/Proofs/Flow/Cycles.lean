import IntegrationFlow.Proofs.Flow.Acyclic
import IntegrationFlow.Validator

/-!
# The check of cycles is exact

The check finds nothing exactly when there is no cycle, it blames only edges that lie on cycles, and no cycle is left
without the edges that it blames (`cycleFindings_exact`). This holds of all flows, also of those in which ids are used
twice or edges lead nowhere.
-/

namespace IntegrationFlow.Flow

open Relation Validator

/-- The flow without the edges of some ids. -/
def withoutEdges (f : Flow) (ids : List String) : Flow :=
  { f with edges := f.edges.filter fun e => !ids.contains e.id }

/-- To delete edges is to cut them. -/
theorem links_withoutEdges (f : Flow) (ids : List String) : (f.withoutEdges ids).Links [] = f.Links ids := by
  funext source target
  refine propext ⟨?_, ?_⟩
  · rintro ⟨e, he, -, hends⟩
    obtain ⟨hmem, hkept⟩ := List.mem_filter.1 he
    exact ⟨e, hmem, by simpa using hkept, hends⟩
  · rintro ⟨e, he, huncut, hends⟩
    exact ⟨e, List.mem_filter.2 ⟨he, by simpa using huncut⟩, List.not_mem_nil, hends⟩

/-- The edges that are deleted make a flow acyclic when the flow is acyclic once they are cut. -/
theorem acyclic_withoutEdges {f : Flow} {ids : List String} (h : f.Acyclic ids) : (f.withoutEdges ids).Acyclic [] := by
  unfold Acyclic
  rw [links_withoutEdges]
  exact h

/-- The ids of the edges that the check of cycles blames. -/
def blamedEdges (f : Flow) : List String :=
  (cycleFindings f).filterMap Finding.edge?

theorem blamedEdges_eq (f : Flow) : f.blamedEdges = f.closingEdges.map (·.id) := by
  rw [blamedEdges, cycleFindings, List.filterMap_map, ← List.filterMap_eq_map]
  rfl

/-- The check of cycles comes to its end from every node. It finds nothing exactly when there is no cycle. All that it
finds are edges on cycles, and without the edges of their ids no cycle is left. -/
theorem cycleFindings_exact (f : Flow) :
    (∀ i, (({} : Search).searchAll f (f.nodes.take i)).trail = []) ∧
      (cycleFindings f = [] ↔ f.Acyclic []) ∧
      (∀ x ∈ cycleFindings f, ∃ e, x = .cycle e.id e.target ∧ f.OnCycle e) ∧
      (f.withoutEdges f.blamedEdges).Acyclic [] := by
  refine ⟨Search.trail_searchAll_take f, ?_, fun x hx => ?_, ?_⟩
  · rw [cycleFindings, List.map_eq_nil_iff]
    exact closingEdges_eq_nil_iff
  · obtain ⟨e, he, rfl⟩ := List.mem_map.1 hx
    exact ⟨e, rfl, onCycle_of_mem_closingEdges he⟩
  · rw [blamedEdges_eq]
    exact acyclic_withoutEdges f.acyclic_closingEdges

/-- A flow with two edges of one id between the same nodes, an edge from a node to itself, and one that leads
nowhere. -/
def knotted : Flow where
  id := "knotted"
  name := "Knotted"
  nodes := ["start", "a", "b", "a"].map fun id => { id, type := "service-box" }
  edges := [{ id := "1", source := "start", target := "a" }, { id := "2", source := "a", target := "b" },
    { id := "3", source := "b", target := "a" }, { id := "3", source := "b", target := "a" },
    { id := "4", source := "b", target := "b" }, { id := "5", source := "b", target := "nowhere" }]
  createdAt := default
  updatedAt := default

example : cycleFindings knotted = [.cycle "3" "a", .cycle "4" "b"] := by
  decide

end IntegrationFlow.Flow
