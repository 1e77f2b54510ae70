import IntegrationFlow.Flow.Reachability
import Mathlib.Logic.Relation

/-!
# What is reachable

`Flow.Leads` relates the two ends of an edge, and `Flow.Reaches` the two ends of a path. The key fact is that the search
`Flow.reachable` lists exactly the ids to which paths lead (`mem_reachable_iff`), each of them once (`nodup_reachable`).
-/

namespace IntegrationFlow.Flow

/-- An edge leads from the first id to the second one. -/
def Leads (f : Flow) (source target : String) : Prop :=
  ∃ e ∈ f.edges, e.source = source ∧ e.target = target

/-- A path leads from the first id to the second one. -/
def Reaches (f : Flow) : String → String → Prop :=
  Relation.ReflTransGen f.Leads

/-- The ends of an edge are in the relation. -/
theorem leads_of_mem {f : Flow} {e : Edge} (he : e ∈ f.edges) : f.Leads e.source e.target :=
  ⟨e, he, rfl, rfl⟩

/-- A path goes on with an edge. -/
theorem Reaches.edge {f : Flow} {start : String} {e : Edge} (h : f.Reaches start e.source) (he : e ∈ f.edges) :
    f.Reaches start e.target :=
  Relation.ReflTransGen.tail h (leads_of_mem he)

/-- A path that ends elsewhere ends with an edge. -/
theorem Reaches.last_edge {f : Flow} {start id : String} (h : f.Reaches start id) (hne : id ≠ start) :
    ∃ e ∈ f.edges, e.target = id ∧ f.Reaches start e.source := by
  rcases Relation.ReflTransGen.cases_tail h with heq | ⟨mid, hmid, e, he, hs, ht⟩
  · exact absurd heq hne
  · exact ⟨e, he, ht, hs ▸ hmid⟩

/-- The search visits only ids to which paths lead. -/
private theorem reaches_of_mem_collect (f : Flow) (start : String) (fuel : Nat) (todo seen : List String)
    (htodo : ∀ id ∈ todo, f.Reaches start id) (hseen : ∀ id ∈ seen, f.Reaches start id) :
    ∀ id ∈ f.collect fuel todo seen, f.Reaches start id := by
  induction fuel generalizing todo seen with
  | zero => exact hseen
  | succ fuel ih =>
    cases todo with
    | nil => exact hseen
    | cons first rest =>
      have hfirst := htodo first List.mem_cons_self
      have hrest : ∀ id ∈ rest, f.Reaches start id := fun id hid => htodo id (List.mem_cons_of_mem _ hid)
      unfold collect
      split
      · exact ih rest seen hrest hseen
      · refine ih _ _ ?_ ?_
        · intro id hid
          rcases List.mem_append.1 hid with hid | hid
          · obtain ⟨e, he, rfl⟩ := List.mem_map.1 hid
            obtain ⟨hmem, hs⟩ := mem_outgoing.1 he
            exact Reaches.edge (hs ▸ hfirst) hmem
          · exact hrest id hid
        · intro id hid
          rcases List.mem_cons.1 hid with rfl | hid
          · exact hfirst
          · exact hseen id hid

/-- The search finds exactly the ids to which paths lead. -/
theorem mem_reachable_iff {f : Flow} {start id : String} : id ∈ f.reachable start ↔ f.Reaches start id := by
  constructor
  · apply reaches_of_mem_collect
    · intro id hid
      rw [List.mem_singleton.1 hid]
      exact Relation.ReflTransGen.refl
    · simp
  · intro h
    induction h with
    | refl => exact f.mem_reachable_self start
    | tail _ hlast ih =>
      obtain ⟨e, he, rfl, rfl⟩ := hlast
      exact f.mem_reachable_of_edge he ih

private theorem nodup_collect (f : Flow) (fuel : Nat) (todo seen : List String) (hseen : seen.Nodup) :
    (f.collect fuel todo seen).Nodup := by
  induction fuel generalizing todo seen with
  | zero => exact hseen
  | succ fuel ih =>
    cases todo with
    | nil => exact hseen
    | cons first rest =>
      unfold collect
      split
      · exact ih rest seen hseen
      · next hnew =>
        have hnew : first ∉ seen := by simpa using hnew
        exact ih _ _ (List.nodup_cons.2 ⟨hnew, hseen⟩)

/-- The search lists no id twice. -/
theorem nodup_reachable (f : Flow) (start : String) : (f.reachable start).Nodup :=
  f.nodup_collect _ _ _ List.nodup_nil

/-! ### Paths of edges with a property -/

/-- A path of edges with a property leads from the first id to the second one. -/
def ReachesBy (f : Flow) (p : Edge → Prop) : String → String → Prop :=
  Relation.ReflTransGen fun source target => ∃ e ∈ f.edges, p e ∧ e.source = source ∧ e.target = target

namespace ReachesBy

variable {f : Flow} {p q : Edge → Prop} {start id : String}

/-- A path goes on with an edge that has the property. -/
theorem edge {e : Edge} (h : f.ReachesBy p start e.source) (he : e ∈ f.edges) (hp : p e) :
    f.ReachesBy p start e.target :=
  Relation.ReflTransGen.tail h ⟨e, he, hp, rfl, rfl⟩

/-- A path that ends elsewhere ends with an edge that has the property. -/
theorem last_edge (h : f.ReachesBy p start id) (hne : id ≠ start) : ∃ e ∈ f.incoming id, p e := by
  rcases Relation.ReflTransGen.cases_tail h with heq | ⟨_, -, e, he, hp, -, htarget⟩
  · exact absurd heq hne
  · exact ⟨e, mem_incoming.2 ⟨he, htarget⟩, hp⟩

theorem mono (h : f.ReachesBy p start id) (himp : ∀ e ∈ f.edges, p e → q e) : f.ReachesBy q start id :=
  Relation.ReflTransGen.mono (fun _ _ ⟨e, he, hp, hends⟩ => ⟨e, he, himp e he hp, hends⟩) _ _ h

end ReachesBy

end IntegrationFlow.Flow
