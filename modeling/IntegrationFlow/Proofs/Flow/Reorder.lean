import IntegrationFlow.Proofs.Flow.Prune

/-!
# Flows whose nodes are declared in another order

The nodes of a flow are told apart by their ids, so the order in which they are declared is of no importance to what is
connected, and a valid flow stays valid (`Valid.reorder`).
-/

namespace IntegrationFlow.Flow

/-- The flow with these nodes. -/
def reorder (f : Flow) (ns : List Node) : Flow :=
  { f with nodes := ns }

open Validator

variable {r : Registry} {f : Flow} {ns : List Node} (hperm : ns.Perm f.nodes)

include hperm

/-- The nodes are found as before. -/
theorem node?_reorder (h : f.Valid r) (id : String) : (f.reorder ns).node? id = f.node? id := by
  have hnodup : ((f.reorder ns).nodes.map (·.id)).Nodup := (hperm.map _).nodup_iff.2 h.nodup_nodeIds
  cases hfind : f.node? id with
  | none =>
    rw [node?_eq_none_iff] at hfind ⊢
    exact fun hmem => hfind ((hperm.map _).subset hmem)
  | some n =>
    obtain ⟨hn, rfl⟩ := mem_of_node?_eq_some hfind
    cases hfind' : (f.reorder ns).node? n.id with
    | none => exact absurd (List.mem_map_of_mem (hperm.mem_iff.2 hn)) (node?_eq_none_iff.1 hfind')
    | some m =>
      obtain ⟨hm, hid⟩ := mem_of_node?_eq_some hfind'
      rw [h.eq_of_id_eq (hperm.subset hm) hn hid]

/-- The only entry point stays. -/
theorem ingressNodes_reorder {ingress : Node} (hingress : ingressNodes r f = [ingress]) :
    ingressNodes r (f.reorder ns) = [ingress] := by
  have hfilter : (ingressNodes r (f.reorder ns)).Perm (ingressNodes r f) := hperm.filter _
  rw [hingress] at hfilter
  exact List.perm_singleton.1 hfilter

/-- A valid flow stays valid. -/
theorem Valid.reorder (h : f.Valid r) : (f.reorder ns).Valid r := by
  obtain ⟨ingress, hingress, hentry⟩ := h.exists_ingress
  have hkeeps (id : String) : f.Keeps (f.reorder ns) id :=
    fun n hn => ⟨n, by rw [node?_reorder hperm h, hn], rfl, rfl⟩
  have hsound : (f.reorder ns).Sound r :=
    h.sound.of_keeps ((hperm.map _).nodup_iff.2 h.nodup_nodeIds) (fun n hn => h.sound.types n (hperm.subset hn))
      (List.Sublist.refl _) fun e _ => ⟨hkeeps _, hkeeps _⟩
  refine valid_of_sound hsound (ingressNodes_reorder hperm hingress) hentry ?_ ?_ ?_
  · intro id hcycle
    refine h.acyclic id (Relation.TransGen.mono ?_ _ _ hcycle)
    rintro a b ⟨e, he, hcut, hs, ht, ha, hb⟩
    exact ⟨e, he, hcut, hs, ht, (hperm.map _).subset ha, (hperm.map _).subset hb⟩
  · exact fun n hn t ht => h.configProblems_eq_nil (hperm.subset hn) ht
  · exact fun n hn t ht hbranch port hport => h.isWired (hperm.subset hn) ht hbranch hport

end IntegrationFlow.Flow
