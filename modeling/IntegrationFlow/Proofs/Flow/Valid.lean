import IntegrationFlow.Validator
import IntegrationFlow.Proofs.Flow.Acyclic

/-!
# What a valid flow promises

A flow is `Valid` when no check finds an error in it. Each check stands for one promise: `nodeFindings_eq_nil_iff` and
`edgeFindings_eq_nil_iff` say what the checks of the structure mean, and the lemmas about `Valid` say what a run may
rely on.
-/

namespace IntegrationFlow.Validator

/-! ### The checks of the structure -/

/-- An edge joins two existing nodes through ports that go together. -/
def Joins (f : Flow) (e : Edge) (source target : Node) : Prop :=
  f.node? e.source = some source ∧ f.node? e.target = some target ∧ portFindings e source target = []

/-- The ports of an edge are found exactly when nothing is wrong with them but their types. -/
theorem portFindings_eq_nil_iff {e : Edge} {source target : Node} :
    portFindings e source target = [] ↔
      ∃ out inn, source.output? e.sourcePort? = some out ∧ target.input? e.targetPort? = some inn ∧
        isAssignable out.type inn.type = true := by
  unfold portFindings
  split
  · next out inn hout hinn =>
    constructor
    · intro h
      by_cases hfit : isAssignable out.type inn.type = true
      · exact ⟨out, inn, hout, hinn, hfit⟩
      · simp [hfit] at h
    · rintro ⟨out', inn', hout', hinn', hfit⟩
      obtain rfl : out = out' := by simpa [hout] using hout'
      obtain rfl : inn = inn' := by simpa [hinn] using hinn'
      simp [hfit]
  · next hnone =>
    constructor
    · simp
    · rintro ⟨out, inn, hout, hinn, -⟩
      exact absurd hinn (hnone out inn hout)

/-- The check of the nodes finds nothing exactly when their ids are new and distinct and their types are known. -/
theorem nodeFindings_eq_nil_iff {r : Registry} {seen : List String} {ns : List Node} :
    nodeFindings r seen ns = [] ↔
      (∀ n ∈ ns, n.id ∉ seen) ∧ (ns.map (·.id)).Nodup ∧ ∀ n ∈ ns, r.contains n.type = true := by
  induction ns generalizing seen with
  | nil => simp [nodeFindings]
  | cons n ns ih =>
    simp only [nodeFindings, List.append_eq_nil_iff, ih, List.map_cons, List.nodup_cons, List.forall_mem_cons]
    by_cases hseen : n.id ∈ seen
    · simp [hseen]
    · by_cases htype : r.contains n.type = true
      · simp only [List.contains_eq_mem, hseen, decide_false, Bool.false_eq_true, if_false, htype, if_true,
          true_and, List.mem_cons, not_or, not_false_eq_true, List.mem_map, not_exists, not_and]
        constructor
        · rintro ⟨hids, hnodup, htypes⟩
          exact ⟨fun m hm => (hids m hm).2, ⟨fun m hm => (hids m hm).1, hnodup⟩, htypes⟩
        · rintro ⟨hids, ⟨hne, hnodup⟩, htypes⟩
          exact ⟨fun m hm => ⟨hne m hm, hids m hm⟩, hnodup, htypes⟩
      · simp [htype]

/-- An edge is new to those that were seen: its id, and the connection that it makes. -/
def SeenEdges.IsNew (f : Flow) (seen : SeenEdges) (e : Edge) : Prop :=
  e.id ∉ seen.ids ∧ seen.keys.lookup (f.edgeKey e) = none

/-- What is new once an edge was seen is new without it, and has another id and another connection. -/
private theorem isNew_cons_iff {f : Flow} {seen : SeenEdges} {e e' : Edge} :
    ({ ids := e.id :: seen.ids, keys := (f.edgeKey e, e.id) :: seen.keys } : SeenEdges).IsNew f e' ↔
      seen.IsNew f e' ∧ e'.id ≠ e.id ∧ f.edgeKey e' ≠ f.edgeKey e := by
  unfold SeenEdges.IsNew
  by_cases hkey : f.edgeKey e' = f.edgeKey e
  · simp [hkey]
  · have hne : (f.edgeKey e' == f.edgeKey e) = false := by simpa using hkey
    simp only [List.mem_cons, not_or, List.lookup_cons, hne]
    tauto

/-- The check of the edges finds nothing exactly when they are new, have distinct ids, make distinct connections, and
each of them joins two nodes. -/
theorem edgeFindings_eq_nil_iff {f : Flow} {seen : SeenEdges} {es : List Edge} :
    edgeFindings f seen es = [] ↔
      (∀ e ∈ es, seen.IsNew f e ∧ ∃ source target, Joins f e source target) ∧ (es.map (·.id)).Nodup ∧
        (es.map f.edgeKey).Nodup := by
  induction es generalizing seen with
  | nil => simp [edgeFindings]
  | cons e es ih =>
    rw [List.forall_mem_cons]
    unfold edgeFindings
    cases hs : f.node? e.source with
    | none => simp [Joins, hs]
    | some source =>
      cases ht : f.node? e.target with
      | none => simp [Joins, hs, ht]
      | some target =>
        dsimp only
        have hjoins : (∃ source target, Joins f e source target) ↔ portFindings e source target = [] := by
          simp [Joins, hs, ht]
        rw [hjoins]
        cases hkey : seen.keys.lookup (f.edgeKey e) with
        | some earlier =>
          have hold : ¬ seen.IsNew f e := fun h => by simp [h.2] at hkey
          simp [hold]
        | none =>
          by_cases hid : e.id ∈ seen.ids
          · simp [SeenEdges.IsNew, hid]
          -- A new edge is seen by all that follow it, so their being new says that the ids and keys differ.
          · have hnew : seen.IsNew f e := ⟨hid, hkey⟩
            simp only [List.contains_eq_mem, hid, decide_false, Bool.false_eq_true, if_false, List.nil_append,
              List.append_eq_nil_iff, ih, isNew_cons_iff, hnew, true_and, List.map_cons, List.nodup_cons, List.mem_map,
              not_exists, not_and]
            constructor
            · rintro ⟨hports, hall, hids, hkeys⟩
              exact ⟨⟨hports, fun e' he' => ⟨(hall e' he').1.1, (hall e' he').2⟩⟩,
                ⟨fun e' he' => (hall e' he').1.2.1, hids⟩, fun e' he' => (hall e' he').1.2.2, hkeys⟩
            · rintro ⟨⟨hports, hall⟩, ⟨hid', hids⟩, hkey', hkeys⟩
              exact ⟨hports, fun e' he' => ⟨⟨(hall e' he').1, hid' e' he', hkey' e' he'⟩, (hall e' he').2⟩, hids, hkeys⟩

/-! ### All findings of these checks are errors -/

private theorem isError_of_mem_nodeFindings {r : Registry} {seen : List String} {ns : List Node} {x : Finding}
    (h : x ∈ nodeFindings r seen ns) : x.isError = true := by
  induction ns generalizing seen with
  | nil => simp [nodeFindings] at h
  | cons n ns ih =>
    simp only [nodeFindings, List.mem_append] at h
    rcases h with (h | h) | h
    · split at h
      · rw [List.mem_singleton.1 h]; rfl
      · simp at h
    · split at h
      · simp at h
      · rw [List.mem_singleton.1 h]; rfl
    · exact ih h

private theorem isError_of_mem_portFindings {e : Edge} {source target : Node} {x : Finding}
    (h : x ∈ portFindings e source target) : x.isError = true := by
  unfold portFindings at h
  split at h
  · split at h
    · simp at h
    · rw [List.mem_singleton.1 h]; rfl
  · rw [List.mem_singleton.1 h]; rfl

private theorem isError_of_mem_edgeFindings {f : Flow} {seen : SeenEdges} {es : List Edge} {x : Finding}
    (h : x ∈ edgeFindings f seen es) : x.isError = true := by
  induction es generalizing seen with
  | nil => simp [edgeFindings] at h
  | cons e es ih =>
    have hrepeated : ∀ b : Bool, x ∈ (if b = true then [.duplicateEdgeId e.id] else [] : List Finding) →
        x.isError = true := by
      intro b hx
      split at hx
      · rw [List.mem_singleton.1 hx]; rfl
      · simp at hx
    unfold edgeFindings at h
    dsimp only at h
    split at h
    · rcases List.mem_append.1 h with h | h
      · exact hrepeated _ h
      · rcases List.mem_cons.1 h with rfl | h
        · rfl
        · exact ih h
    · rcases List.mem_append.1 h with h | h
      · exact hrepeated _ h
      · rcases List.mem_cons.1 h with rfl | h
        · rfl
        · exact ih h
    · split at h
      · rcases List.mem_append.1 h with h | h
        · rcases List.mem_append.1 h with h | h
          · exact hrepeated _ h
          · exact isError_of_mem_portFindings h
        · rcases List.mem_cons.1 h with rfl | h
          · rfl
          · exact ih h
      · rcases List.mem_append.1 h with h | h
        · rcases List.mem_append.1 h with h | h
          · exact hrepeated _ h
          · exact isError_of_mem_portFindings h
        · exact ih h

/-- The checks of the structure find errors only. -/
theorem isError_of_mem_checkStructure {r : Registry} {f : Flow} {x : Finding} (h : x ∈ checkStructure r f) :
    x.isError = true := by
  rcases List.mem_append.1 h with h | h
  · exact isError_of_mem_nodeFindings h
  · exact isError_of_mem_edgeFindings h

end IntegrationFlow.Validator

namespace IntegrationFlow.Flow

open Validator

/-! ### Valid flows -/

/-- No check finds an error in the flow. -/
def Valid (r : Registry) (f : Flow) : Prop :=
  ∀ x ∈ Validator.check r f, x.isError = false

/-- A flow is valid exactly when it is not refused. -/
theorem valid_iff_ensureValid {r : Registry} {f : Flow} : f.Valid r ↔ ∃ findings, ensureValid r f = .ok findings :=
  ensureValid_isOk_iff.symm

/-- A check all of whose findings are errors has found nothing in a valid flow. -/
private theorem eq_nil_of_errors {xs : List Finding} (hall : ∀ x ∈ xs, x.isError = true)
    (hnone : ∀ x ∈ xs, x.isError = false) : xs = [] := by
  rw [List.eq_nil_iff_forall_not_mem]
  intro x hx
  have h1 := hall x hx
  have h2 := hnone x hx
  rw [h1] at h2
  cases h2

namespace Valid

variable {r : Registry} {f : Flow}

private theorem nodeFindings_eq_nil (h : f.Valid r) : nodeFindings r [] f.nodes = [] :=
  eq_nil_of_errors (fun _ hx => isError_of_mem_nodeFindings hx) fun x hx => h x (by simp [check, checkStructure, hx])

private theorem edgeFindings_eq_nil (h : f.Valid r) : edgeFindings f {} f.edges = [] :=
  eq_nil_of_errors (fun _ hx => isError_of_mem_edgeFindings hx) fun x hx => h x (by simp [check, checkStructure, hx])

/-- The checks of the structure find nothing. -/
theorem checkStructure_eq_nil (h : f.Valid r) : checkStructure r f = [] := by
  rw [checkStructure, h.nodeFindings_eq_nil, h.edgeFindings_eq_nil, List.append_nil]

/-- The ids of the nodes are distinct. -/
theorem nodup_nodeIds (h : f.Valid r) : f.nodeIds.Nodup :=
  (nodeFindings_eq_nil_iff.1 h.nodeFindings_eq_nil).2.1

/-- The nodes are of registered types. -/
theorem exists_type (h : f.Valid r) {n : Node} (hn : n ∈ f.nodes) : ∃ t, r.find? n.type = some t :=
  Option.isSome_iff_exists.1 ((nodeFindings_eq_nil_iff.1 h.nodeFindings_eq_nil).2.2 n hn)

/-- The ids of the edges are distinct. -/
theorem nodup_edgeIds (h : f.Valid r) : f.edgeIds.Nodup :=
  (edgeFindings_eq_nil_iff.1 h.edgeFindings_eq_nil).2.1

/-- Every edge joins two nodes. -/
theorem joins (h : f.Valid r) {e : Edge} (he : e ∈ f.edges) : ∃ source target, Joins f e source target :=
  ((edgeFindings_eq_nil_iff.1 h.edgeFindings_eq_nil).1 e he).2

/-- Exactly one node is an entry point, and no edge leads to it. -/
theorem exists_ingress (h : f.Valid r) : ∃ n, ingressNodes r f = [n] ∧ f.incoming n.id = [] := by
  have hnil : ingressFindings r f = [] := by
    apply eq_nil_of_errors
    · intro x hx
      unfold ingressFindings at hx
      split at hx
      · rw [List.mem_singleton.1 hx]; rfl
      · rcases List.mem_append.1 hx with hx | hx
        · obtain ⟨n, -, rfl⟩ := List.mem_map.1 hx; rfl
        · obtain ⟨e, -, rfl⟩ := List.mem_map.1 hx; rfl
    · exact fun x hx => h x (by simp [check, hx])
  unfold ingressFindings at hnil
  split at hnil
  · simp at hnil
  · next first others hall =>
    simp only [List.append_eq_nil_iff, List.map_eq_nil_iff] at hnil
    exact ⟨first, by rw [hall, hnil.1], hnil.2⟩

/-- The links of the flow make no cycle. -/
theorem acyclic (h : f.Valid r) : f.Acyclic [] := by
  have hnil : cycleFindings f = [] := by
    apply eq_nil_of_errors
    · intro x hx
      obtain ⟨e, -, rfl⟩ := List.mem_map.1 hx; rfl
    · exact fun x hx => h x (by simp [check, hx])
  have hclosing : f.closingEdges = [] := by simpa [cycleFindings] using hnil
  simpa [hclosing] using f.acyclic_closingEdges

/-- Nothing is wrong with the configuration of a node. -/
theorem configProblems_eq_nil (h : f.Valid r) {n : Node} (hn : n ∈ f.nodes) {t : NodeType}
    (ht : r.find? n.type = some t) : t.configProblems n.data.config = [] := by
  rw [List.eq_nil_iff_forall_not_mem]
  intro p hp
  have hmem : Finding.badConfig n.id p ∈ configFindings r f := by
    refine List.mem_flatMap.2 ⟨n, hn, ?_⟩
    rw [ht]
    exact List.mem_map_of_mem hp
  have := h _ (by simp [check, hmem] : Finding.badConfig n.id p ∈ check r f)
  cases this

/-- An edge leaves through every output that can be chosen. -/
theorem isWired (h : f.Valid r) {n : Node} (hn : n ∈ f.nodes) {t : NodeType} (ht : r.find? n.type = some t)
    (hbranch : t.isBranch = true) {port : String} (hport : port ∈ t.branchPorts) :
    Validator.isWired f n port = true := by
  by_contra hopen
  have hmem : Finding.openBranch n.id port ∈ branchFindings r f := by
    refine List.mem_flatMap.2 ⟨n, hn, ?_⟩
    rw [ht]
    simp only [hbranch, if_true]
    exact List.mem_map_of_mem (List.mem_filter.2 ⟨hport, by simpa using hopen⟩)
  have := h _ (by simp [check, hmem] : Finding.openBranch n.id port ∈ check r f)
  cases this

/-- An id belongs to one node only. -/
theorem eq_of_id_eq (h : f.Valid r) {m n : Node} (hm : m ∈ f.nodes) (hn : n ∈ f.nodes) (hid : m.id = n.id) : m = n :=
  List.inj_on_of_nodup_map h.nodup_nodeIds hm hn hid

/-- A node is found by its id. -/
theorem node?_eq_some (h : f.Valid r) {n : Node} (hn : n ∈ f.nodes) : f.node? n.id = some n := by
  cases hfind : f.node? n.id with
  | none => exact absurd (List.mem_map_of_mem hn) (node?_eq_none_iff.1 hfind)
  | some m =>
    obtain ⟨hm, hid⟩ := mem_of_node?_eq_some hfind
    rw [h.eq_of_id_eq hm hn hid]

/-- The nodes that a warning calls unreachable are those that the search from the ingress does not find. -/
theorem unreachable_mem_check_iff (h : f.Valid r) {ingress n : Node} (hingress : ingressNodes r f = [ingress])
    (hn : n ∈ f.nodes) : Finding.unreachable n.id ∈ check r f ↔ n.id ∉ f.reachable ingress.id := by
  -- All other checks find errors only.
  have hcheck : Finding.unreachable n.id ∈ check r f ↔ Finding.unreachable n.id ∈ reachabilityFindings r f := by
    have hconfig : Finding.unreachable n.id ∉ configFindings r f := by
      intro hx
      obtain ⟨m, -, hx⟩ := List.mem_flatMap.1 hx
      split at hx <;> simp at hx
    have hbranch : Finding.unreachable n.id ∉ branchFindings r f := by
      intro hx
      obtain ⟨m, -, hx⟩ := List.mem_flatMap.1 hx
      split at hx
      · simp at hx
      · split at hx <;> simp at hx
    simp [check, checkStructure, h.nodeFindings_eq_nil, h.edgeFindings_eq_nil, ingressFindings, hingress, cycleFindings,
      hconfig, hbranch]
  rw [hcheck]
  unfold reachabilityFindings
  rw [hingress]
  constructor
  · intro hmem
    obtain ⟨m, hm, hid⟩ := List.mem_map.1 hmem
    rw [← Finding.unreachable.inj hid]
    simpa using (List.mem_filter.1 hm).2
  · intro hnot
    exact List.mem_map.2 ⟨n, List.mem_filter.2 ⟨hn, by simpa using hnot⟩, rfl⟩

end Valid

instance (r : Registry) (f : Flow) : Decidable (f.Valid r) :=
  inferInstanceAs (Decidable (∀ x ∈ Validator.check r f, x.isError = false))

end IntegrationFlow.Flow
