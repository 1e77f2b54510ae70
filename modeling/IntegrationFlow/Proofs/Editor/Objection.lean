import IntegrationFlow.Proofs.Editor.Session

/-!
# Edges to which the checks object

An editor looks at an edge before it adds it, and the checks look at all edges of a flow that is stored. Both come to
the same verdict: `objections_withEdge` says what the checks find wrong with one more edge of a flow whose other edges
they accept, and an editor refuses exactly the edges to which they object, for the reason that they give first
(`addEdge_eq_ok_iff_objections`).
-/

namespace IntegrationFlow

namespace Validator

/-- The finding is an objection to an edge. A cycle is no matter of one edge alone. -/
def IsObjection (edge : String) (x : Finding) : Prop :=
  x.isError = true ∧ x.edge? = some edge ∧ x.code ≠ "CycleDetected"

instance (edge : String) (x : Finding) : Decidable (IsObjection edge x) :=
  inferInstanceAs (Decidable (_ ∧ _ ∧ _))

/-- What the checks object to about an edge. -/
def objections (r : Registry) (f : Flow) (edge : String) : List Finding :=
  (check r f).filter (IsObjection edge)

/-! ### One more edge -/

/-- The edges that were seen, and some more of them. -/
def SeenEdges.withAll (f : Flow) (seen : SeenEdges) (es : List Edge) : SeenEdges where
  ids := (es.map (·.id)).reverse ++ seen.ids
  keys := (es.map fun e => (f.edgeKey e, e.id)).reverse ++ seen.keys

/-- After edges in which nothing was found, the check goes on with the others. -/
theorem edgeFindings_append {f : Flow} {seen : SeenEdges} {es : List Edge} (h : edgeFindings f seen es = [])
    (later : List Edge) : edgeFindings f seen (es ++ later) = edgeFindings f (seen.withAll f es) later := by
  induction es generalizing seen with
  | nil => rfl
  | cons e es ih =>
    rw [List.cons_append]
    conv_lhs => unfold edgeFindings
    unfold edgeFindings at h
    cases hs : f.node? e.source with
    | none => simp [hs] at h
    | some source =>
      cases ht : f.node? e.target with
      | none => simp [hs, ht] at h
      | some target =>
        rw [hs, ht] at h
        dsimp only at h ⊢
        cases hkey : seen.keys.lookup (f.edgeKey e) with
        | some earlier => simp [hkey] at h
        | none =>
          rw [hkey] at h
          obtain ⟨hown, hrest⟩ := List.append_eq_nil_iff.1 h
          dsimp only
          rw [hown, ih hrest, List.nil_append]
          simp [SeenEdges.withAll]

/-- The check of the edges depends on the nodes of a flow only. -/
theorem edgeFindings_congr {f g : Flow} (h : g.nodes = f.nodes) (seen : SeenEdges) (es : List Edge) :
    edgeFindings g seen es = edgeFindings f seen es := by
  have hnode : g.node? = f.node? := funext fun id => by rw [Flow.node?, h, Flow.node?]
  have hkey : g.edgeKey = f.edgeKey := funext fun e => by
    rw [Flow.edgeKey, Flow.edgeKey, Flow.sourcePort?, Flow.sourcePort?, Flow.targetPort?, Flow.targetPort?, hnode]
  induction es generalizing seen with
  | nil => rfl
  | cons e es ih =>
    unfold edgeFindings
    simp only [hnode, hkey, ih]

/-- Whatever is found about the ports of an edge is an error at the edge, and the ports are to blame. -/
private theorem of_mem_portFindings {e : Edge} {source target : Node} {x : Finding}
    (h : x ∈ portFindings e source target) :
    x.isError = true ∧ x.edge? = some e.id ∧ x.code = "IncompatiblePort" := by
  unfold portFindings at h
  split at h
  · split at h
    · simp at h
    · rw [List.mem_singleton.1 h]
      exact ⟨rfl, rfl, rfl⟩
  · rw [List.mem_singleton.1 h]
    exact ⟨rfl, rfl, rfl⟩

private theorem isObjection_of_mem_portFindings {e : Edge} {source target : Node} {x : Finding}
    (h : x ∈ portFindings e source target) : IsObjection e.id x := by
  obtain ⟨herror, hedge, hcode⟩ := of_mem_portFindings h
  exact ⟨herror, hedge, by simp [hcode]⟩

/-- Whatever the check of an edge finds is an objection to it. -/
private theorem isObjection_of_mem_edgeFindings {f : Flow} {seen : SeenEdges} {e : Edge} {x : Finding}
    (h : x ∈ edgeFindings f seen [e]) : IsObjection e.id x := by
  have hrepeated {b : Bool} (hx : x ∈ if b = true then [Finding.duplicateEdgeId e.id] else []) :
      IsObjection e.id x := by
    split at hx
    · rw [List.mem_singleton.1 hx]
      exact ⟨rfl, rfl, by simp [Finding.code]⟩
    · simp at hx
  have hdangling (missing : String) : IsObjection e.id (.danglingEdge e.id missing) :=
    ⟨rfl, rfl, by simp [Finding.code]⟩
  unfold edgeFindings at h
  simp only [edgeFindings] at h
  split at h
  · rcases List.mem_append.1 h with h | h
    · exact hrepeated h
    · exact List.mem_singleton.1 h ▸ hdangling _
  · rcases List.mem_append.1 h with h | h
    · exact hrepeated h
    · exact List.mem_singleton.1 h ▸ hdangling _
  · split at h
    · rcases List.mem_append.1 h with h | h
      · exact (List.mem_append.1 h).elim hrepeated isObjection_of_mem_portFindings
      · rw [List.mem_singleton.1 h]
        exact ⟨rfl, rfl, by simp [Finding.code]⟩
    · rw [List.append_nil] at h
      exact (List.mem_append.1 h).elim hrepeated isObjection_of_mem_portFindings

section

variable (r : Registry) (g : Flow) (id : String)

/-- That a node is not reachable is no objection to an edge. -/
private theorem filter_reachabilityFindings : (reachabilityFindings r g).filter (IsObjection id) = [] := by
  refine List.filter_eq_nil_iff.2 fun x hx => ?_
  unfold reachabilityFindings at hx
  split at hx
  · simp at hx
  · obtain ⟨n, -, rfl⟩ := List.mem_map.1 hx
    simp [IsObjection, Finding.edge?]

/-- That an edge closes a cycle is none either. -/
private theorem filter_cycleFindings : (cycleFindings g).filter (IsObjection id) = [] := by
  refine List.filter_eq_nil_iff.2 fun x hx => ?_
  obtain ⟨d, -, rfl⟩ := List.mem_map.1 hx
  simp [IsObjection, Finding.code]

/-- What is wrong with the configurations of the nodes is not about an edge. -/
private theorem filter_configFindings : (configFindings r g).filter (IsObjection id) = [] := by
  refine List.filter_eq_nil_iff.2 fun x hx => ?_
  obtain ⟨n, -, hx⟩ := List.mem_flatMap.1 hx
  split at hx
  · simp at hx
  · obtain ⟨p, -, rfl⟩ := List.mem_map.1 hx
    simp [IsObjection, Finding.edge?]

/-- That an output leads nowhere is not about an edge. -/
private theorem filter_branchFindings : (branchFindings r g).filter (IsObjection id) = [] := by
  refine List.filter_eq_nil_iff.2 fun x hx => ?_
  obtain ⟨n, -, hx⟩ := List.mem_flatMap.1 hx
  split at hx
  · simp at hx
  · split at hx
    · obtain ⟨p, -, rfl⟩ := List.mem_map.1 hx
      simp [IsObjection, Finding.edge?]
    · simp at hx

end

end Validator

namespace Editor

open IntegrationFlow.Flow Validator

variable {r : Registry} {f : Flow} {e : Edge}

/-- Among what is found about the entry points, what is about one more edge is that it leads to the only one. -/
private theorem filter_ingressFindings_withEdge (hsingle : (ingressNodes r f).length ≤ 1)
    (hentry : ∀ n ∈ ingressNodes r f, f.incoming n.id = []) :
    (ingressFindings r (withEdge f e)).filter (IsObjection e.id) =
      ((ingressNodes r f).filter (·.id == e.target)).map fun n => .edgeIntoIngress n.id e.id := by
  have hnodes : ingressNodes r (withEdge f e) = ingressNodes r f := rfl
  have hincoming (id : String) : (withEdge f e).incoming id = f.incoming id ++ [e].filter (·.target == id) :=
    List.filter_append ..
  unfold ingressFindings
  rw [hnodes]
  cases hall : ingressNodes r f with
  | nil => simp [IsObjection, Finding.edge?]
  | cons n others =>
    rw [hall] at hsingle hentry
    have hothers : others = [] := List.length_eq_zero_iff.1 (by simpa using hsingle)
    rw [hothers]
    dsimp only
    rw [hincoming, hentry n List.mem_cons_self]
    by_cases htarget : e.target = n.id
    · simp [htarget, IsObjection, Finding.isError, Finding.severity, Finding.edge?, Finding.code]
    · have hne : ¬ n.id = e.target := fun h => htarget h.symm
      simp [htarget, hne]

/-- The findings that the checks add for one more edge of a flow whose other edges they accept: about its ends, its ports
and its connection, and then about the entry point to which it leads. -/
theorem objections_withEdge (hchecked : checkStructure r f = []) (hsingle : (ingressNodes r f).length ≤ 1)
    (hentry : ∀ n ∈ ingressNodes r f, f.incoming n.id = []) :
    objections r (withEdge f e) e.id = edgeFindings f (SeenEdges.withAll f {} f.edges) [e] ++
      ((ingressNodes r f).filter (·.id == e.target)).map fun n => .edgeIntoIngress n.id e.id := by
  have hstructure := List.append_eq_nil_iff.1 hchecked
  have hnodes : nodeFindings r [] (withEdge f e).nodes = [] := hstructure.1
  have hedges : edgeFindings (withEdge f e) {} (withEdge f e).edges =
      edgeFindings f (SeenEdges.withAll f {} f.edges) [e] :=
    (edgeFindings_congr (f := f) (g := withEdge f e) rfl _ _).trans (edgeFindings_append hstructure.2 [e])
  have hown : (edgeFindings f (SeenEdges.withAll f {} f.edges) [e]).filter (IsObjection e.id) =
      edgeFindings f (SeenEdges.withAll f {} f.edges) [e] :=
    List.filter_eq_self.2 fun x hx => decide_eq_true (isObjection_of_mem_edgeFindings hx)
  unfold objections check checkStructure
  simp only [List.filter_append, hnodes, hedges, hown, filter_ingressFindings_withEdge hsingle hentry,
    filter_reachabilityFindings, filter_cycleFindings, filter_configFindings, filter_branchFindings, List.nil_append,
    List.append_nil]

/-- What the findings about an edge say of the answer to the edit that adds it: an edge without findings is added, and
any other is refused with the code of the first one. -/
def Answers {α : Type} (findings : List Finding) : Except Refusal α → Prop
  | .ok _ => findings = []
  | .error why => ∃ error first, why = .notAllowed error ∧ findings.head? = some first ∧ error.code = first.code

/-- A connection was seen exactly when an edge makes it. -/
private theorem lookup_withAll_eq_none_iff {key : EdgeKey} :
    (SeenEdges.withAll f {} f.edges).keys.lookup key = none ↔
      f.edges.find? (fun d => f.edgeKey d = key) = none := by
  have hcomm : ∀ d : Edge, key = f.edgeKey d ↔ f.edgeKey d = key := fun d => eq_comm
  rw [List.lookup_eq_none_iff, List.find?_eq_none]
  simp [SeenEdges.withAll, hcomm]

/-- An edge leads to an entry point exactly when its target is one. -/
private theorem filter_ingressNodes (hsound : f.Sound r) (hsingle : (ingressNodes r f).length ≤ 1) {target : Node}
    (htarget : f.node? e.target = some target) :
    (ingressNodes r f).filter (·.id == e.target) = if r.isIngress target then [target] else [] := by
  obtain ⟨hmem, hid⟩ := mem_of_node?_eq_some htarget
  split
  · next hingress =>
    have hmem : target ∈ ingressNodes r f := List.mem_filter.2 ⟨hmem, hingress⟩
    obtain ⟨n, hn⟩ := List.length_eq_one_iff.1 (Nat.le_antisymm hsingle (List.length_pos_of_mem hmem))
    rw [hn, List.mem_singleton] at hmem
    simp [hn, ← hmem, hid]
  · next hother =>
    refine List.filter_eq_nil_iff.2 fun n hn hname => hother ?_
    have hfound := hsound.node?_eq_some (List.mem_filter.1 hn).1
    rw [eq_of_beq hname, htarget] at hfound
    rw [Option.some.inj hfound]
    exact (List.mem_filter.1 hn).2

/-- No edge makes a connection to an entry point to which no edge leads. -/
private theorem find?_edgeKey_eq_none {target : Node} (htarget : f.node? e.target = some target)
    (hnone : f.incoming target.id = []) : f.edges.find? (fun d => f.edgeKey d = f.edgeKey e) = none := by
  refine List.find?_eq_none.2 fun d hd hkey => List.filter_eq_nil_iff.1 hnone d hd ?_
  have htargets : d.target = e.target := congrArg EdgeKey.target (of_decide_eq_true hkey)
  rw [htargets, (mem_of_node?_eq_some htarget).2]
  exact beq_self_eq_true _

/-- To fill in the ports that are meant does not change a connection. -/
private theorem edgeKey_filled {s t : Node} (hs : f.node? e.source = some s) (ht : f.node? e.target = some t)
    {p q : Port} (hp : s.output? e.sourcePort? = some p) (hq : t.input? e.targetPort? = some q) (id : String) :
    f.edgeKey { id, source := e.source, target := e.target, sourcePort? := some p.id, targetPort? := some q.id } =
      f.edgeKey e := by
  have hp' : s.output? (some p.id) = some p := findPort_id hp
  have hq' : t.input? (some q.id) = some q := findPort_id hq
  simp only [edgeKey, Flow.sourcePort?, Flow.targetPort?, hs, ht, Option.bind_some, hp, hq, hp', hq',
    Option.map_some, Option.some_or]

/-- What is done with a new id starts from the ids that are left. -/
theorem run_newId_bind {α : Type} (f : Flow) (stem : String) (k : String → Editing α) (ids : IdSupply) :
    (newId f stem >>= k).run.run ids =
      (k (ids.fresh stem (f.nodeIds ++ f.edgeIds)).1).run.run (ids.fresh stem (f.nodeIds ++ f.edgeIds)).2 :=
  rfl

/-- An edge that is added gets the answer that the checks would give. -/
private theorem answers_addEdge (hchecked : checkStructure r f = []) (hsingle : (ingressNodes r f).length ≤ 1)
    (hentry : ∀ n ∈ ingressNodes r f, f.incoming n.id = []) (hid : e.id ∉ f.edgeIds) (ids : IdSupply) :
    Answers (objections r (withEdge f e) e.id)
      ((addEdge r f e.source e.target e.sourcePort? e.targetPort?).run.run ids).1 := by
  have hnew : (SeenEdges.withAll f {} f.edges).ids.contains e.id = false := by
    simpa [SeenEdges.withAll, edgeIds] using hid
  have hsound := checkStructure_eq_nil_iff.1 hchecked
  rw [objections_withEdge hchecked hsingle hentry]
  unfold addEdge edgeFindings
  rw [hnew]
  cases hs : f.node? e.source with
  | none => exact ⟨_, _, rfl, rfl, rfl⟩
  | some s =>
    cases ht : f.node? e.target with
    | none => exact ⟨_, _, rfl, rfl, rfl⟩
    | some t =>
      dsimp only
      rw [filter_ingressNodes hsound hsingle ht]
      by_cases hingress : r.isIngress t = true
      · -- The editor blames the entry point first, the checks do so last; both blame a port.
        have hnone := hentry t (List.mem_filter.2 ⟨(mem_of_node?_eq_some ht).1, hingress⟩)
        rw [lookup_withAll_eq_none_iff.2 (find?_edgeKey_eq_none ht hnone), if_pos hingress, if_pos hingress]
        refine ⟨.edgeIntoIngress e.target, ?_⟩
        cases hports : portFindings e s t with
        | nil => exact ⟨_, rfl, rfl, rfl⟩
        | cons x xs =>
          have hcode := (of_mem_portFindings (e := e) (hports ▸ List.mem_cons_self : x ∈ portFindings e s t)).2.2
          exact ⟨x, rfl, rfl, hcode.symm⟩
      · rw [if_neg hingress, if_neg hingress]
        unfold portFindings
        cases hp : s.output? e.sourcePort? with
        | none => split <;> exact ⟨_, _, rfl, rfl, rfl⟩
        | some p =>
          cases hq : t.input? e.targetPort? with
          | none => split <;> exact ⟨_, _, rfl, rfl, rfl⟩
          | some q =>
            dsimp only
            cases hfit : isAssignable p.type q.type with
            | false => split <;> exact ⟨_, _, rfl, rfl, rfl⟩
            | true =>
              cases hseen : f.edges.find? (fun d => f.edgeKey d = f.edgeKey e) with
              | none =>
                rw [lookup_withAll_eq_none_iff.2 hseen]
                simp only [Bool.not_true, Bool.false_eq_true, if_false, run_newId_bind, edgeKey_filled hs ht hp hq, hseen]
                exact rfl
              | some d =>
                obtain ⟨earlier, hearlier⟩ := Option.ne_none_iff_exists'.1 fun hnone =>
                  Option.some_ne_none d (hseen.symm.trans (lookup_withAll_eq_none_iff.1 hnone))
                rw [hearlier]
                simp only [Bool.not_true, Bool.false_eq_true, if_false, run_newId_bind, edgeKey_filled hs ht hp hq, hseen]
                exact ⟨_, _, rfl, rfl, rfl⟩

/-- An edit that is carried out gives the flow its time of change. -/
theorem run_carryOut (r : Registry) (now : Time.Timestamp) (f : Flow) (edit : Edit) (ids : IdSupply) :
    (carryOut r now f edit).run.run ids =
      match (outcome r f edit).run.run ids with
      | (.ok p, ids) => (.ok (if p.2.kind = .flowReplaced then p.1 else { p.1 with updatedAt := now }, p.2), ids)
      | (.error why, ids) => (.error why, ids) := by
  unfold carryOut
  rw [ExceptT.run_bind, StateT.run_bind]
  rcases (outcome r f edit).run.run ids with ⟨result, ids⟩
  cases result <;> rfl

/-- An edit is answered as its outcome is. -/
private theorem answers_edit {s : Session} {now : Time.Timestamp} {edit : Edit} {findings : List Finding}
    (h : Answers findings ((outcome s.registry s.flow edit).run.run s.ids).1) :
    Answers findings (s.edit now edit).2 := by
  unfold Session.edit
  rw [run_carryOut]
  rcases houtcome : (outcome s.registry s.flow edit).run.run s.ids with ⟨result, ids⟩
  rw [houtcome] at h
  cases result <;> exact h

/-- An editor adds an edge exactly when the checks would object to nothing about it, and refuses any other edge with the
code of what they would object to first. The edge may have any id that is new, and ports may be left out. -/
theorem addEdge_eq_ok_iff_objections {s : Session} {e : Edge} (hchecked : checkStructure s.registry s.flow = [])
    (hsingle : (ingressNodes s.registry s.flow).length ≤ 1)
    (hentry : ∀ n ∈ ingressNodes s.registry s.flow, s.flow.incoming n.id = []) (hid : e.id ∉ s.flow.edgeIds)
    (now : Time.Timestamp) :
    let answer := (s.edit now (.addEdge e.source e.target e.sourcePort? e.targetPort?)).2
    ((∃ told, answer = .ok told) ↔ objections s.registry (withEdge s.flow e) e.id = []) ∧
      ∀ why, answer = .error why → ∃ error first, why = .notAllowed error ∧
        (objections s.registry (withEdge s.flow e) e.id).head? = some first ∧ error.code = first.code := by
  intro answer
  have hanswers : Answers (objections s.registry (withEdge s.flow e) e.id) answer :=
    answers_edit (answers_addEdge hchecked hsingle hentry hid s.ids)
  clear_value answer
  cases answer with
  | ok told => exact ⟨⟨fun _ => hanswers, fun _ => ⟨told, rfl⟩⟩, fun _ h => nomatch h⟩
  | error why =>
    obtain ⟨error, first, hwhy, hfirst, hcode⟩ := hanswers
    refine ⟨⟨fun ⟨_, h⟩ => (nomatch h), fun h => ?_⟩, fun _ h => ?_⟩
    · rw [h] at hfirst
      cases hfirst
    · rw [← Except.error.inj h]
      exact ⟨error, first, hwhy, hfirst, hcode⟩

/-- In the sample, an edge that only closes a cycle is added, and one that makes the connection of the edge that is there
is refused for that reason. -/
theorem addEdge_sample :
    (∃ told, (sample.edit default (.addEdge "node_2" "node_2" none (some "input"))).2 = .ok told) ∧
      ∃ error, (sample.edit default (.addEdge "node_1" "node_2" (some "success") none)).2 = .error (.notAllowed error) ∧
        error.code = "DuplicateEdge" := by
  obtain ⟨hchecked, hsingle, hentry, -⟩ := consistent_sample.2.2.2
  have hid : "new" ∉ sample.flow.edgeIds := by simp [consistent_sample.2.2.1]
  have hloop := addEdge_eq_ok_iff_objections (e := ⟨"new", "node_2", "node_2", none, some "input", {}⟩)
    hchecked hsingle hentry hid default
  have hagain := addEdge_eq_ok_iff_objections (e := ⟨"new", "node_1", "node_2", some "success", none, {}⟩)
    hchecked hsingle hentry hid default
  refine ⟨hloop.1.2 (by decide +kernel), ?_⟩
  rcases hanswer : (sample.edit default (.addEdge "node_1" "node_2" (some "success") none)).2 with why | told
  · obtain ⟨error, first, rfl, hfirst, hcode⟩ := hagain.2 why hanswer
    refine ⟨error, rfl, hcode.trans ?_⟩
    have hcodes : ((objections sample.registry
        (withEdge sample.flow ⟨"new", "node_1", "node_2", some "success", none, {}⟩) "new").head?.map (·.code)) =
          some "DuplicateEdge" := by decide +kernel
    simpa [hfirst] using hcodes
  · exact absurd (hagain.1.1 ⟨told, hanswer⟩) (by decide +kernel)

end Editor

end IntegrationFlow
