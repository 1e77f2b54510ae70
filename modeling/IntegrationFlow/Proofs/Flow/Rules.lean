import IntegrationFlow.Proofs.Editor.Consistent
import IntegrationFlow.Proofs.Flow.RoundTrip
import IntegrationFlow.Server.Api

/-!
# The rules of imported flows

An imported flow keeps six rules (`Flow.Obeys`), each of which is said about all nodes or all pairs of edges at once. The
check of the structure goes through the nodes and then through the edges, and passes over an edge between missing nodes.
Nevertheless it finds nothing exactly when all rules are kept (`sound_iff_wellFormed`), and whatever it finds is so
(`holds_of_mem_checkStructure`): the nodes and edges that a finding names break one of the rules. `import_exact` combines
the two.
-/

namespace IntegrationFlow

open Validator

/-- A type is registered exactly when one of the types has its name. -/
theorem Registry.contains_iff {r : Registry} {type : String} :
    r.contains type = true ↔ ∃ t ∈ r.types, t.type = type := by
  simp [Registry.contains, Registry.find?, List.find?_isSome]

namespace Flow

/-- A rule for the structure of a flow. -/
inductive Rule where
  | nodeIds
  | nodeTypes
  | edgeIds
  | endpoints
  | ports
  | connections
deriving DecidableEq

/-- The code of the errors that report a breach of a rule. -/
def Rule.code : Rule → String
  | .nodeIds => "DuplicateNodeId"
  | .nodeTypes => "UnknownNodeType"
  | .edgeIds => "DuplicateEdge"
  | .endpoints => "DanglingReference"
  | .ports => "IncompatiblePort"
  | .connections => "DuplicateEdge"

/-- The ports of an edge, as they are given or else the first ones, exist and go together. -/
def PortsFit (e : Edge) (source target : Node) : Prop :=
  ∃ out inn, source.output? e.sourcePort? = some out ∧ target.input? e.targetPort? = some inn ∧
    isAssignable out.type inn.type = true

/-- The flow keeps a rule. -/
def Obeys (r : Registry) (f : Flow) : Rule → Prop
  | .nodeIds => f.nodes.Pairwise fun m n => m.id ≠ n.id
  | .nodeTypes => ∀ n ∈ f.nodes, ∃ t ∈ r.types, t.type = n.type
  | .edgeIds => f.edges.Pairwise fun d e => d.id ≠ e.id
  | .endpoints => ∀ e ∈ f.edges, (∃ n ∈ f.nodes, n.id = e.source) ∧ ∃ n ∈ f.nodes, n.id = e.target
  | .ports => ∀ e ∈ f.edges, ∀ source target,
      f.node? e.source = some source → f.node? e.target = some target → PortsFit e source target
  | .connections => f.edges.Pairwise fun d e => f.edgeKey d ≠ f.edgeKey e

/-- The flow keeps all rules. -/
def WellFormed (r : Registry) (f : Flow) : Prop :=
  ∀ rule, f.Obeys r rule

variable {r : Registry} {f : Flow}

/-! ### Nothing is found when all rules are kept -/

/-- A node is found exactly when one of the nodes has the id. -/
theorem exists_node?_iff {id : String} : (∃ n, f.node? id = some n) ↔ ∃ n ∈ f.nodes, n.id = id := by
  constructor
  · rintro ⟨n, hn⟩
    exact ⟨n, mem_of_node?_eq_some hn⟩
  · rintro ⟨n, hn, hid⟩
    cases hfind : f.node? id with
    | none => exact absurd (hid ▸ List.mem_map_of_mem hn) (node?_eq_none_iff.1 hfind)
    | some m => exact ⟨m, rfl⟩

/-- The edges join nodes through ports that go together exactly when the rules on endpoints and on ports are kept. -/
theorem forall_joins_iff :
    (∀ e ∈ f.edges, ∃ source target, Joins f e source target) ↔ f.Obeys r .endpoints ∧ f.Obeys r .ports := by
  constructor
  · intro h
    refine ⟨fun e he => ?_, fun e he source target hsource htarget => ?_⟩
    · obtain ⟨source, target, hsource, htarget, -⟩ := h e he
      exact ⟨exists_node?_iff.1 ⟨source, hsource⟩, exists_node?_iff.1 ⟨target, htarget⟩⟩
    · obtain ⟨source', target', hsource', htarget', hports⟩ := h e he
      obtain rfl : source = source' := Option.some.inj (hsource.symm.trans hsource')
      obtain rfl : target = target' := Option.some.inj (htarget.symm.trans htarget')
      exact portFindings_eq_nil_iff.1 hports
  · rintro ⟨hends, hports⟩ e he
    obtain ⟨hsource, htarget⟩ := hends e he
    obtain ⟨source, hsource⟩ := exists_node?_iff.2 hsource
    obtain ⟨target, htarget⟩ := exists_node?_iff.2 htarget
    exact ⟨source, target, hsource, htarget, portFindings_eq_nil_iff.2 (hports e he source target hsource htarget)⟩

/-- A flow is sound exactly when it keeps all rules. -/
theorem sound_iff_wellFormed : f.Sound r ↔ f.WellFormed r := by
  have hids : f.nodeIds.Nodup ↔ f.Obeys r .nodeIds := List.pairwise_map
  have hedges : f.edgeIds.Nodup ↔ f.Obeys r .edgeIds := List.pairwise_map
  have hkeys : (f.edges.map f.edgeKey).Nodup ↔ f.Obeys r .connections := List.pairwise_map
  have htypes : (∀ n ∈ f.nodes, r.contains n.type = true) ↔ f.Obeys r .nodeTypes :=
    forall₂_congr fun n _ => Registry.contains_iff
  constructor
  · intro h rule
    cases rule with
    | nodeIds => exact hids.1 h.nodeIds
    | nodeTypes => exact htypes.1 h.types
    | edgeIds => exact hedges.1 h.edgeIds
    | endpoints => exact (forall_joins_iff.1 h.joins).1
    | ports => exact (forall_joins_iff.1 h.joins).2
    | connections => exact hkeys.1 h.keys
  · intro h
    exact ⟨hids.2 (h .nodeIds), htypes.2 (h .nodeTypes), forall_joins_iff.2 ⟨h .endpoints, h .ports⟩, hedges.2 (h .edgeIds),
      hkeys.2 (h .connections)⟩

/-! ### What is found is so -/

end Flow

/-- What a finding about the structure of a flow says is so. -/
def Finding.Holds (r : Registry) (f : Flow) : Finding → Prop
  | .duplicateNode id => ∃ m n, [m, n].Sublist f.nodes ∧ m.id = id ∧ n.id = id
  | .unknownType id type => (∃ n ∈ f.nodes, n.id = id ∧ n.type = type) ∧ ∀ t ∈ r.types, t.type ≠ type
  | .duplicateEdgeId id => ∃ d e, [d, e].Sublist f.edges ∧ d.id = id ∧ e.id = id
  | .danglingEdge id missing =>
    (∃ e ∈ f.edges, e.id = id ∧ (e.source = missing ∨ e.target = missing)) ∧ ∀ n ∈ f.nodes, n.id ≠ missing
  | .unknownPort id => ∃ e ∈ f.edges, e.id = id ∧ ∃ source target, f.node? e.source = some source ∧
      f.node? e.target = some target ∧ (source.output? e.sourcePort? = none ∨ target.input? e.targetPort? = none)
  | .unassignable id sourceType targetType => ∃ e ∈ f.edges, e.id = id ∧ ∃ source target out inn,
      f.node? e.source = some source ∧ f.node? e.target = some target ∧ source.output? e.sourcePort? = some out ∧
      target.input? e.targetPort? = some inn ∧ out.type = sourceType ∧ inn.type = targetType ∧
      isAssignable sourceType targetType = false
  | .duplicateConnection id earlier =>
    ∃ d e, [d, e].Sublist f.edges ∧ d.id = earlier ∧ e.id = id ∧ f.edgeKey d = f.edgeKey e
  | _ => False

namespace Flow

variable {r : Registry} {f : Flow}

/-- A finding that holds reports a rule that is broken. -/
theorem exists_broken_of_holds {x : Finding} (h : x.Holds r f) : ∃ rule : Rule, x.code = rule.code ∧ ¬ f.Obeys r rule := by
  cases x with
  | duplicateNode id =>
    obtain ⟨m, n, hsub, hm, hn⟩ := h
    exact ⟨.nodeIds, rfl, fun hkeeps => (List.pairwise_iff_forall_sublist.1 hkeeps hsub) (hm.trans hn.symm)⟩
  | unknownType id type =>
    obtain ⟨⟨n, hn, -, rfl⟩, hnone⟩ := h
    refine ⟨.nodeTypes, rfl, fun hkeeps => ?_⟩
    obtain ⟨t, ht, htype⟩ := hkeeps n hn
    exact hnone t ht htype
  | duplicateEdgeId id =>
    obtain ⟨d, e, hsub, hd, he⟩ := h
    exact ⟨.edgeIds, rfl, fun hkeeps => (List.pairwise_iff_forall_sublist.1 hkeeps hsub) (hd.trans he.symm)⟩
  | danglingEdge id missing =>
    obtain ⟨⟨e, he, -, hmissing⟩, hnone⟩ := h
    refine ⟨.endpoints, rfl, fun hkeeps => ?_⟩
    obtain ⟨⟨m, hm, hsource⟩, n, hn, htarget⟩ := hkeeps e he
    rcases hmissing with rfl | rfl
    · exact hnone m hm hsource
    · exact hnone n hn htarget
  | unknownPort id =>
    obtain ⟨e, he, -, source, target, hsource, htarget, hport⟩ := h
    refine ⟨.ports, rfl, fun hkeeps => ?_⟩
    obtain ⟨out, inn, hout, hinn, -⟩ := hkeeps e he source target hsource htarget
    rcases hport with hport | hport
    · simp [hport] at hout
    · simp [hport] at hinn
  | unassignable id sourceType targetType =>
    obtain ⟨e, he, -, source, target, out, inn, hsource, htarget, hout, hinn, rfl, rfl, hfit⟩ := h
    refine ⟨.ports, rfl, fun hkeeps => ?_⟩
    obtain ⟨out', inn', hout', hinn', hfit'⟩ := hkeeps e he source target hsource htarget
    obtain rfl : out = out' := Option.some.inj (hout.symm.trans hout')
    obtain rfl : inn = inn' := Option.some.inj (hinn.symm.trans hinn')
    simp [hfit] at hfit'
  | duplicateConnection id earlier =>
    obtain ⟨d, e, hsub, -, -, hkey⟩ := h
    exact ⟨.connections, rfl, fun hkeeps => (List.pairwise_iff_forall_sublist.1 hkeeps hsub) hkey⟩
  | _ => exact h.elim

/-- A member of a part and a member of the part after it, in this order, are members of the whole. -/
private theorem pair_sublist_append {α : Type} {a b : α} {as bs : List α} (ha : a ∈ as) (hb : b ∈ bs) :
    [a, b].Sublist (as ++ bs) :=
  (List.singleton_sublist.2 ha).append (List.singleton_sublist.2 hb)

/-- What the check of the nodes finds is so. -/
private theorem holds_of_mem_nodeFindings {x : Finding} {seen : List String} {before ns : List Node}
    (hnodes : f.nodes = before ++ ns) (hseen : ∀ id ∈ seen, ∃ m ∈ before, m.id = id)
    (h : x ∈ nodeFindings r seen ns) : x.Holds r f := by
  induction ns generalizing seen before with
  | nil => simp [nodeFindings] at h
  | cons n ns ih =>
    simp only [nodeFindings, List.mem_append] at h
    rcases h with (h | h) | h
    · split at h
      · next hold =>
        obtain ⟨m, hm, hid⟩ := hseen n.id (by simpa using hold)
        obtain rfl := List.mem_singleton.1 h
        exact ⟨m, n, hnodes ▸ pair_sublist_append hm (List.mem_cons_self ..), hid, rfl⟩
      · cases h
    · split at h
      · cases h
      · next hunknown =>
        obtain rfl := List.mem_singleton.1 h
        refine ⟨⟨n, by simp [hnodes], rfl, rfl⟩, fun t ht htype => hunknown ?_⟩
        exact Registry.contains_iff.2 ⟨t, ht, htype⟩
    · have hnodes' : f.nodes = (before ++ [n]) ++ ns := by simp [hnodes]
      refine ih hnodes' ?_ h
      intro id hid
      rcases List.mem_cons.1 hid with rfl | hid
      · exact ⟨n, by simp, rfl⟩
      · obtain ⟨m, hm, hmid⟩ := hseen id hid
        exact ⟨m, List.mem_append_left _ hm, hmid⟩

/-- The ids and the connections that were seen are those of edges of a list. -/
private structure Recalls (f : Flow) (seen : SeenEdges) (before : List Edge) : Prop where
  ids : ∀ id ∈ seen.ids, ∃ d ∈ before, d.id = id
  keys : ∀ key id, seen.keys.lookup key = some id → ∃ d ∈ before, d.id = id ∧ f.edgeKey d = key

private theorem Recalls.cons_id {seen : SeenEdges} {before : List Edge} (h : Recalls f seen before) (e : Edge) :
    Recalls f { seen with ids := e.id :: seen.ids } (before ++ [e]) := by
  constructor
  · intro id hid
    rcases List.mem_cons.1 hid with rfl | hid
    · exact ⟨e, by simp, rfl⟩
    · obtain ⟨d, hd, hdid⟩ := h.ids id hid
      exact ⟨d, List.mem_append_left _ hd, hdid⟩
  · intro key id hkey
    obtain ⟨d, hd, hdid⟩ := h.keys key id hkey
    exact ⟨d, List.mem_append_left _ hd, hdid⟩

private theorem Recalls.cons_key {seen : SeenEdges} {before : List Edge} {e : Edge}
    (h : Recalls f seen before) (he : e ∈ before) :
    Recalls f { seen with keys := (f.edgeKey e, e.id) :: seen.keys } before := by
  refine ⟨h.ids, fun key id hkey => ?_⟩
  simp only [List.lookup_cons] at hkey
  split at hkey
  · next heq => exact ⟨e, he, Option.some.inj hkey, (by simpa using heq : key = f.edgeKey e).symm⟩
  · exact h.keys key id hkey

/-- What the check of the ports of an edge finds is so. -/
private theorem holds_of_mem_portFindings {x : Finding} {e : Edge} (he : e ∈ f.edges) {source target : Node}
    (hsource : f.node? e.source = some source) (htarget : f.node? e.target = some target)
    (h : x ∈ portFindings e source target) : x.Holds r f := by
  unfold portFindings at h
  split at h
  · next out inn hout hinn =>
    split at h
    · cases h
    · next hfit =>
      obtain rfl := List.mem_singleton.1 h
      exact ⟨e, he, rfl, source, target, out, inn, hsource, htarget, hout, hinn, rfl, rfl, by simpa using hfit⟩
  · next hnone =>
    obtain rfl := List.mem_singleton.1 h
    refine ⟨e, he, rfl, source, target, hsource, htarget, ?_⟩
    cases hout : source.output? e.sourcePort? with
    | none => exact .inl rfl
    | some out =>
      cases hinn : target.input? e.targetPort? with
      | none => exact .inr rfl
      | some inn => exact (hnone out inn hout hinn).elim

/-- What the check of the edges finds is so. -/
private theorem holds_of_mem_edgeFindings {x : Finding} {seen : SeenEdges} {before es : List Edge}
    (hedges : f.edges = before ++ es) (hseen : Recalls f seen before) (h : x ∈ edgeFindings f seen es) : x.Holds r f := by
  induction es generalizing seen before with
  | nil => simp [edgeFindings] at h
  | cons e es ih =>
    have he : e ∈ f.edges := by simp [hedges]
    have hedges' : f.edges = (before ++ [e]) ++ es := by simp [hedges]
    have hseen' := hseen.cons_id e
    have hpair {d : Edge} (hd : d ∈ before) : [d, e].Sublist f.edges :=
      hedges ▸ pair_sublist_append hd (List.mem_cons_self ..)
    have hrepeated (hx : x ∈ (if seen.ids.contains e.id then [.duplicateEdgeId e.id] else [] : List Finding)) :
        x.Holds r f := by
      split at hx
      · next hold =>
        obtain ⟨d, hd, hid⟩ := hseen.ids e.id (by simpa using hold)
        obtain rfl := List.mem_singleton.1 hx
        exact ⟨d, e, hpair hd, hid, rfl⟩
      · cases hx
    have hdangling {id : String} (hend : e.source = id ∨ e.target = id) (hid : f.node? id = none)
        (hx : x ∈ .danglingEdge e.id id :: edgeFindings f { seen with ids := e.id :: seen.ids } es) : x.Holds r f := by
      rcases List.mem_cons.1 hx with rfl | hx
      · refine ⟨⟨e, he, rfl, hend⟩, fun n hn hnid => ?_⟩
        exact node?_eq_none_iff.1 hid (hnid ▸ List.mem_map_of_mem hn)
      · exact ih hedges' hseen' hx
    unfold edgeFindings at h
    dsimp only at h
    split at h
    · next hsource =>
      rcases List.mem_append.1 h with h | h
      · exact hrepeated h
      · exact hdangling (.inl rfl) hsource h
    · next htarget =>
      rcases List.mem_append.1 h with h | h
      · exact hrepeated h
      · exact hdangling (.inr rfl) htarget h
    · next source target hsource htarget =>
      split at h
      · next earlier hkey =>
        rcases List.mem_append.1 h with h | h
        · rcases List.mem_append.1 h with h | h
          · exact hrepeated h
          · exact holds_of_mem_portFindings he hsource htarget h
        · rcases List.mem_cons.1 h with rfl | h
          · obtain ⟨d, hd, hid, hdkey⟩ := hseen.keys _ _ hkey
            exact ⟨d, e, hpair hd, hid, rfl, hdkey⟩
          · exact ih hedges' hseen' h
      · rcases List.mem_append.1 h with h | h
        · rcases List.mem_append.1 h with h | h
          · exact hrepeated h
          · exact holds_of_mem_portFindings he hsource htarget h
        · exact ih hedges' (hseen'.cons_key (by simp)) h

/-- Whatever the check of the structure finds is so. -/
theorem holds_of_mem_checkStructure {x : Finding} (h : x ∈ checkStructure r f) : x.Holds r f := by
  rcases List.mem_append.1 h with h | h
  · exact holds_of_mem_nodeFindings (List.nil_append _).symm (by simp) h
  · exact holds_of_mem_edgeFindings (List.nil_append _).symm ⟨by simp, by simp⟩ h

/-! ### The import of a document -/

/-- The structure of a flow is refused exactly when the flow breaks a rule. -/
theorem refusal?_checkStructure_eq_none_iff : refusal? (checkStructure r f) = none ↔ f.WellFormed r := by
  rw [refusal?_eq_none_iff, ← sound_iff_wellFormed, ← checkStructure_eq_nil_iff, List.eq_nil_iff_forall_not_mem]
  refine forall₂_congr fun x hx => ?_
  simp [isError_of_mem_checkStructure hx]

/-- The structure of a flow is refused for something that is so. -/
theorem exists_holds_of_refusal? {e : GraphError} (h : refusal? (checkStructure r f) = some e) :
    ∃ first others, e = .invalid first others (checkStructure r f) ∧ first.Holds r f := by
  unfold refusal? at h
  split at h
  · cases h
  · next first others hfilter =>
    obtain rfl := Option.some.inj h
    have hfirst : first ∈ (checkStructure r f).filter (·.isError) := by simp [hfilter]
    exact ⟨first, _, rfl, holds_of_mem_checkStructure (List.mem_of_mem_filter hfirst)⟩

/-- The error is about something in the flow that is so, and its code names a rule that the flow breaks. -/
def IsBlamed (r : Registry) (f : Flow) (e : GraphError) : Prop :=
  ∃ first others rule, e = .invalid first others (checkStructure r f) ∧ first.Holds r f ∧ e.code = Rule.code rule ∧
    ¬ f.Obeys r rule

/-- Importing accepts exactly the flows that keep all rules, and refuses other flows for a rule that they break. -/
private theorem importText_ok_and_error (r : Registry) (now : Time.Timestamp) (text : String) :
    (∀ f, importText r now text = .ok f ↔ parse now text = .fits f ∧ f.WellFormed r) ∧
      ∀ e, importText r now text = .error e →
        (∃ problems, parse now text = .refused problems ∧ e = .badDocument problems) ∨
          ∃ f, parse now text = .fits f ∧ f.IsBlamed r e := by
  refine ⟨fun f => by rw [importText_eq_ok_iff, refusal?_checkStructure_eq_none_iff], fun e he => ?_⟩
  unfold importText at he
  cases hparse : parse now text with
  | refused problems =>
    rw [hparse] at he
    exact .inl ⟨problems, rfl, (Except.error.inj he).symm⟩
  | fits f =>
    simp only [hparse] at he
    cases hrefusal : refusal? (checkStructure r f) with
    | none => simp [hrefusal] at he
    | some e' =>
      simp only [hrefusal, Except.error.injEq] at he
      subst he
      obtain ⟨first, others, rfl, hholds⟩ := exists_holds_of_refusal? hrefusal
      obtain ⟨rule, hcode, hbroken⟩ := exists_broken_of_holds hholds
      exact .inr ⟨f, rfl, first, others, rule, rfl, hholds, hcode, hbroken⟩

/-- Importing accepts exactly the documents, as text or as bytes, that hold a flow which keeps all rules. Any other
document is refused as such if it holds no flow, and else for a rule that the flow breaks. -/
theorem import_exact (r : Registry) (now : Time.Timestamp) :
    (∀ text : String,
      (∀ f, importText r now text = .ok f ↔ parse now text = .fits f ∧ f.WellFormed r) ∧
      ∀ e, importText r now text = .error e →
        e.code = "InvalidFlowDocument" ∧ (∃ problems, parse now text = .refused problems) ∨
          ∃ f, parse now text = .fits f ∧ f.IsBlamed r e) ∧
    ∀ body : List UInt8,
      (∀ f, Server.importBody r now body = .ok f ↔
        ∃ text, Text.decodeUtf8? body = some text ∧ parse now text = .fits f ∧ f.WellFormed r) ∧
      ∀ why, Server.importBody r now body = .error why →
        ∃ e, why = .notAllowed e ∧
          (e.code = "InvalidFlowDocument" ∧
              (∀ text, Text.decodeUtf8? body = some text → ∃ problems, parse now text = .refused problems) ∨
            ∃ text f, Text.decodeUtf8? body = some text ∧ parse now text = .fits f ∧ f.IsBlamed r e) := by
  constructor
  · intro text
    obtain ⟨hok, herror⟩ := importText_ok_and_error r now text
    refine ⟨hok, fun e he => ?_⟩
    rcases herror e he with ⟨problems, hparse, rfl⟩ | hblamed
    · exact .inl ⟨rfl, problems, hparse⟩
    · exact .inr hblamed
  · intro body
    -- A body is imported as the text that it decodes to, and one that is no text is no document either.
    unfold Server.importBody
    cases hdecode : Text.decodeUtf8? body with
    | none => exact ⟨by simp, fun why hwhy => ⟨_, (Except.error.inj hwhy).symm, .inl ⟨rfl, by simp⟩⟩⟩
    | some text =>
      obtain ⟨hok, herror⟩ := importText_ok_and_error r now text
      simp only [Option.some.injEq, exists_eq_left']
      cases himport : importText r now text with
      | ok f =>
        refine ⟨fun g => ?_, fun why hwhy => by simp [Except.mapError] at hwhy⟩
        simpa [himport, Except.mapError] using hok g
      | error e =>
        refine ⟨fun g => ?_, fun why hwhy => ?_⟩
        · simpa [himport, Except.mapError] using hok g
        · simp only [Except.mapError, Except.error.injEq] at hwhy
          refine ⟨e, hwhy.symm, ?_⟩
          rcases herror e himport with ⟨problems, hparse, rfl⟩ | ⟨f, hparse, hblamed⟩
          · exact .inl ⟨rfl, by simp [hparse]⟩
          · exact .inr ⟨text, f, rfl, hparse, hblamed⟩

end Flow

end IntegrationFlow
