import IntegrationFlow.Flow.Basic

/-!
# Reachability

`Flow.reachable` lists the ids to which edges lead from a start. The key fact is that the search runs to its end:
`collect_closed` says that the result is closed under the edges of the flow.
-/

namespace IntegrationFlow.Flow

/-- Follow the edges from the ids that are still to be visited, in at most `fuel` steps. -/
def collect (f : Flow) : Nat → List String → List String → List String
  | 0, _, seen => seen
  | _ + 1, [], seen => seen
  | fuel + 1, id :: rest, seen =>
    if seen.contains id then f.collect fuel rest seen
    else f.collect fuel ((f.outgoing id).map (·.target) ++ rest) (id :: seen)

/-- The ids to which edges lead from a start, the start included. Every edge is followed at most once. -/
def reachable (f : Flow) (start : String) : List String :=
  f.collect (f.edges.length + 1) [start] []

/-- What was seen stays seen. -/
theorem subset_collect (f : Flow) (fuel : Nat) (todo seen : List String) :
    ∀ id ∈ seen, id ∈ f.collect fuel todo seen := by
  induction fuel generalizing todo seen with
  | zero => simp [collect]
  | succ fuel ih =>
    cases todo with
    | nil => simp [collect]
    | cons first rest =>
      intro id hid
      unfold collect
      split
      · exact ih _ _ id hid
      · exact ih _ _ id (List.mem_cons_of_mem _ hid)

/-- How many edges start at an id that was not seen yet. -/
def unfollowed (f : Flow) (seen : List String) : Nat :=
  f.edges.countP fun e => !seen.contains e.source

/-- An id that is visited uses up the edges that leave it. -/
theorem unfollowed_cons (f : Flow) {id : String} {seen : List String} (h : seen.contains id = false) :
    f.unfollowed (id :: seen) + (f.outgoing id).length = f.unfollowed seen := by
  unfold unfollowed outgoing
  rw [← List.countP_eq_length_filter]
  induction f.edges with
  | nil => rfl
  | cons e es ih =>
    simp only [List.countP_cons]
    by_cases hs : e.source = id
    · subst hs
      simp only [List.contains_cons, h, beq_self_eq_true, Bool.true_or, Bool.not_true, Bool.false_eq_true, if_false,
        if_true, Bool.not_false] at ih ⊢
      omega
    · have hne : (e.source == id) = false := by simp [hs]
      simp only [List.contains_cons, hne, Bool.false_or, Bool.false_eq_true, if_false] at ih ⊢
      omega

/-- With enough fuel the search ends only when nothing is left to visit, and so the result is closed under edges. -/
theorem collect_closed (f : Flow) (fuel : Nat) (todo seen : List String)
    (enough : todo.length + f.unfollowed seen ≤ fuel)
    (closed : ∀ e ∈ f.edges, e.source ∈ seen → e.target ∈ seen ∨ e.target ∈ todo) :
    (∀ id ∈ todo, id ∈ f.collect fuel todo seen) ∧
      ∀ e ∈ f.edges, e.source ∈ f.collect fuel todo seen → e.target ∈ f.collect fuel todo seen := by
  induction fuel generalizing todo seen with
  | zero =>
    have : todo = [] := List.eq_nil_of_length_eq_zero (by omega)
    subst this
    simp only [collect]
    exact ⟨by simp, fun e he hs => (closed e he hs).elim (fun h => h) (by simp)⟩
  | succ fuel ih =>
    cases todo with
    | nil =>
      simp only [collect]
      exact ⟨by simp, fun e he hs => (closed e he hs).elim (fun h => h) (by simp)⟩
    | cons first rest =>
      simp only [collect]
      split
      · next hseen =>
        have hin : first ∈ seen := by simpa using hseen
        have := ih rest seen (by simp only [List.length_cons] at enough; omega) fun e he hs => by
          rcases closed e he hs with h | h
          · exact .inl h
          · rcases List.mem_cons.1 h with rfl | h
            · exact .inl hin
            · exact .inr h
        refine ⟨fun id hid => ?_, this.2⟩
        rcases List.mem_cons.1 hid with rfl | hid
        · exact subset_collect f _ _ _ _ hin
        · exact this.1 id hid
      · next hseen =>
        -- From now on the id is seen, and the ids behind it are still to be followed.
        have hnew : seen.contains first = false := by simpa using hseen
        have fewer := f.unfollowed_cons hnew
        have := ih ((f.outgoing first).map (·.target) ++ rest) (first :: seen)
          (by simp only [List.length_cons, List.length_append, List.length_map] at enough ⊢; omega) fun e he hs => by
            rcases List.mem_cons.1 hs with hs | hs
            · refine .inr (List.mem_append_left _ (List.mem_map.2 ⟨e, mem_outgoing.2 ⟨he, hs⟩, rfl⟩))
            · rcases closed e he hs with h | h
              · exact .inl (List.mem_cons_of_mem _ h)
              · rcases List.mem_cons.1 h with h | h
                · exact .inl (h ▸ List.mem_cons_self)
                · exact .inr (List.mem_append_right _ h)
        refine ⟨fun id hid => ?_, this.2⟩
        rcases List.mem_cons.1 hid with rfl | hid
        · exact subset_collect f _ _ _ _ List.mem_cons_self
        · exact this.1 id (List.mem_append_right _ hid)

/-- One step for the start and one for each edge are enough. -/
theorem enough_edges (f : Flow) (start : String) :
    [start].length + f.unfollowed [] ≤ f.edges.length + 1 := by
  have := List.countP_le_length (p := fun e : Edge => !([] : List String).contains e.source) (l := f.edges)
  simp only [unfollowed, List.length_cons, List.length_nil] at this ⊢
  omega

/-- The start is reachable. -/
theorem mem_reachable_self (f : Flow) (start : String) : start ∈ f.reachable start :=
  (f.collect_closed _ [start] [] (f.enough_edges start) (by simp)).1 start List.mem_cons_self

/-- What is reachable is closed under the edges of the flow. -/
theorem mem_reachable_of_edge (f : Flow) {start : String} {e : Edge} (he : e ∈ f.edges)
    (hs : e.source ∈ f.reachable start) : e.target ∈ f.reachable start :=
  (f.collect_closed _ [start] [] (f.enough_edges start) (by simp)).2 e he hs

end IntegrationFlow.Flow
