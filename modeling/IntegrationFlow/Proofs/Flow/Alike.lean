import IntegrationFlow.Proofs.Flow.Valid
import Mathlib.Data.List.Forall2

/-!
# Flows that are alike

Two flows have the same frame (`Flow.SameFrame`) when their nodes and edges correspond, in the same order, and differ
only in what the nodes are set to do and in what has no influence: the labels and the places of nodes, the branch labels
of edges, and whether an edge spells out a port or leaves it out. They are `Alike` when the nodes are set to do the same,
too.

The key fact is that the checks find the same in both (`check_eq_of_alike`), with one reservation: where nodes share an
id, an edge that leaves out its port means the first output of the first of them, and the check of the branches reads it
as the first output of each of them (`filter_check_eq`). Of the checks, only that of the configurations asks for more
than the frame.
-/

namespace IntegrationFlow

/-- Two nodes of one id, one type and the same ports. Their configurations may differ. -/
structure Node.SameFrame (m n : Node) : Prop where
  id : n.id = m.id
  type : n.type = m.type
  inputs : n.data.inputs = m.data.inputs
  outputs : n.data.outputs = m.data.outputs

namespace Node.SameFrame

variable {m n : Node}

theorem refl (n : Node) : n.SameFrame n :=
  ⟨rfl, rfl, rfl, rfl⟩

theorem output?_eq (h : m.SameFrame n) (id? : Option String) : n.output? id? = m.output? id? := by
  rw [Node.output?, Node.output?, h.outputs]

theorem input?_eq (h : m.SameFrame n) (id? : Option String) : n.input? id? = m.input? id? := by
  rw [Node.input?, Node.input?, h.inputs]

end Node.SameFrame

/-- Two nodes that differ in nothing but their labels and their places on the canvas. -/
structure Node.Alike (m n : Node) : Prop extends SameFrame m n where
  config : n.data.config = m.data.config

theorem Node.Alike.refl (n : Node) : n.Alike n :=
  ⟨.refl n, rfl⟩

/-- Two edges that mean the same connection of a flow and hand over the same. -/
structure Edge.Alike (f : Flow) (d e : Edge) : Prop where
  id : e.id = d.id
  source : e.source = d.source
  target : e.target = d.target
  mapping : e.data.mapping = d.data.mapping
  output : ∀ n, f.node? d.source = some n → n.output? e.sourcePort? = n.output? d.sourcePort?
  input : ∀ n, f.node? d.target = some n → n.input? e.targetPort? = n.input? d.targetPort?
  key : f.edgeKey e = f.edgeKey d

/-- Edges that name the same ports are alike when only their branch labels differ. -/
theorem Edge.alike_of_ports_eq {f : Flow} {d e : Edge} (hid : e.id = d.id) (hsource : e.source = d.source)
    (htarget : e.target = d.target) (hmapping : e.data.mapping = d.data.mapping)
    (houtput : e.sourcePort? = d.sourcePort?) (hinput : e.targetPort? = d.targetPort?) : d.Alike f e where
  id := hid
  source := hsource
  target := htarget
  mapping := hmapping
  output := fun n _ => by rw [houtput]
  input := fun n _ => by rw [hinput]
  key := by
    simp only [Flow.edgeKey, Flow.sourcePort?, Flow.targetPort?, hsource, htarget, houtput, hinput]

private theorem map_eq_of_forall₂ {α β γ : Type} {rel : α → β → Prop} {as : List α} {bs : List β} {p : α → γ}
    {q : β → γ} (h : List.Forall₂ rel as bs) (hpq : ∀ a b, rel a b → q b = p a) : bs.map q = as.map p := by
  induction h with
  | nil => rfl
  | cons hab _ ih => rw [List.map_cons, List.map_cons, hpq _ _ hab, ih]

private theorem any_eq_of_forall₂ {α β : Type} {rel : α → β → Prop} {as : List α} {bs : List β} {p : α → Bool}
    {q : β → Bool} (h : List.Forall₂ rel as bs) (hpq : ∀ a b, a ∈ as → rel a b → q b = p a) : bs.any q = as.any p := by
  induction h with
  | nil => rfl
  | cons hab _ ih =>
    rw [List.any_cons, List.any_cons, hpq _ _ List.mem_cons_self hab,
      ih fun a b ha => hpq a b (List.mem_cons_of_mem _ ha)]

private theorem flatMap_eq_of_forall₂ {α β γ : Type} {rel : α → β → Prop} {as : List α} {bs : List β}
    {p : α → List γ} {q : β → List γ} (h : List.Forall₂ rel as bs) (hpq : ∀ a b, a ∈ as → rel a b → q b = p a) :
    bs.flatMap q = as.flatMap p := by
  induction h with
  | nil => rfl
  | cons hab _ ih =>
    rw [List.flatMap_cons, List.flatMap_cons, hpq _ _ List.mem_cons_self hab,
      ih fun a b ha => hpq a b (List.mem_cons_of_mem _ ha)]

theorem filter_of_forall₂ {α β : Type} {rel : α → β → Prop} {as : List α} {bs : List β} {p : α → Bool}
    {q : β → Bool} (h : List.Forall₂ rel as bs) (hpq : ∀ a b, rel a b → q b = p a) :
    List.Forall₂ rel (as.filter p) (bs.filter q) :=
  List.rel_filter (fun a b hab => Bool.eq_iff_iff.1 (hpq a b hab).symm) h

/-- Of two lists whose items correspond, the first items with a property correspond. -/
theorem find?_of_forall₂ {α β : Type} {rel : α → β → Prop} {as : List α} {bs : List β} {p : α → Bool}
    {q : β → Bool} (h : List.Forall₂ rel as bs) (hpq : ∀ a b, rel a b → q b = p a) :
    as.find? p = none ∧ bs.find? q = none ∨ ∃ a b, as.find? p = some a ∧ bs.find? q = some b ∧ rel a b := by
  induction h with
  | nil => exact .inl ⟨rfl, rfl⟩
  | @cons a b as bs hab _ ih =>
    rw [List.find?_cons, List.find?_cons, hpq a b hab]
    split
    · exact .inr ⟨a, b, rfl, rfl, hab⟩
    · exact ih

namespace Flow

/-- Two flows whose nodes have the same frames and whose edges are alike. -/
structure SameFrame (f g : Flow) : Prop where
  nodes : List.Forall₂ Node.SameFrame f.nodes g.nodes
  edges : List.Forall₂ (Edge.Alike f) f.edges g.edges

namespace SameFrame

variable {f g : Flow}

theorem nodeIds_eq (h : f.SameFrame g) : g.nodeIds = f.nodeIds :=
  map_eq_of_forall₂ h.nodes fun _ _ hn => hn.id

theorem edgeIds_eq (h : f.SameFrame g) : g.edgeIds = f.edgeIds :=
  map_eq_of_forall₂ h.edges fun _ _ he => he.id

/-- There are nodes with an id in both flows, or in none of them. The first ones have the same frame. -/
theorem node? (h : f.SameFrame g) (id : String) :
    f.node? id = none ∧ g.node? id = none ∨ ∃ m n, f.node? id = some m ∧ g.node? id = some n ∧ m.SameFrame n :=
  find?_of_forall₂ h.nodes fun _ _ hn => by rw [hn.id]

theorem outgoing (h : f.SameFrame g) (id : String) : List.Forall₂ (Edge.Alike f) (f.outgoing id) (g.outgoing id) :=
  filter_of_forall₂ h.edges fun _ _ he => by rw [he.source]

theorem incoming (h : f.SameFrame g) (id : String) : List.Forall₂ (Edge.Alike f) (f.incoming id) (g.incoming id) :=
  filter_of_forall₂ h.edges fun _ _ he => by rw [he.target]

/-- An edge means the same connection in both flows. -/
theorem edgeKey_eq (h : f.SameFrame g) (e : Edge) : g.edgeKey e = f.edgeKey e := by
  have hsource : g.sourcePort? e = f.sourcePort? e := by
    rw [Flow.sourcePort?, Flow.sourcePort?]
    rcases h.node? e.source with ⟨hm, hn⟩ | ⟨m, n, hm, hn, halike⟩
    · rw [hm, hn]
    · rw [hm, hn]
      exact halike.output?_eq _
  have htarget : g.targetPort? e = f.targetPort? e := by
    rw [Flow.targetPort?, Flow.targetPort?]
    rcases h.node? e.target with ⟨hm, hn⟩ | ⟨m, n, hm, hn, halike⟩
    · rw [hm, hn]
    · rw [hm, hn]
      exact halike.input?_eq _
  rw [Flow.edgeKey, Flow.edgeKey, hsource, htarget]

/-! ### What is reachable, and what closes a cycle -/

theorem targets_eq (h : f.SameFrame g) (id : String) : (g.outgoing id).map (·.target) = (f.outgoing id).map (·.target) :=
  map_eq_of_forall₂ (h.outgoing id) fun _ _ he => he.target

theorem sources_eq (h : f.SameFrame g) (id : String) : (g.incoming id).map (·.source) = (f.incoming id).map (·.source) :=
  map_eq_of_forall₂ (h.incoming id) fun _ _ he => he.source

theorem reachable_eq (h : f.SameFrame g) (start : String) : g.reachable start = f.reachable start := by
  have hcollect (fuel : Nat) (todo seen : List String) : g.collect fuel todo seen = f.collect fuel todo seen := by
    induction fuel generalizing todo seen with
    | zero => rfl
    | succ fuel ih =>
      cases todo with
      | nil => rfl
      | cons id rest => rw [collect, collect, ih, ih, h.targets_eq]
  rw [reachable, reachable, hcollect, h.edges.length_eq]

end SameFrame

/-- Two searches that are at the same point of flows of one frame. -/
structure Search.Alike (f : Flow) (s t : Search) : Prop where
  trail : List.Forall₂ (fun a b => b.1 = a.1 ∧ List.Forall₂ (Edge.Alike f) a.2 b.2) s.trail t.trail
  entered : t.entered = s.entered
  closing : List.Forall₂ (Edge.Alike f) s.closing t.closing

namespace SameFrame

variable {f g : Flow}

private theorem search_enter (h : f.SameFrame g) {s t : Search} (hst : s.Alike f t) (id : String) :
    (s.enter f id).Alike f (t.enter g id) where
  trail := .cons ⟨rfl, h.outgoing id⟩ hst.trail
  entered := congrArg (id :: ·) hst.entered
  closing := hst.closing

private theorem search_step (h : f.SameFrame g) {s t : Search} (hst : s.Alike f t) : (s.step f).Alike f (t.step g) := by
  obtain ⟨trail, entered, closing⟩ := s
  obtain ⟨trail', entered', closing'⟩ := t
  obtain ⟨htrail, hentered, hclosing⟩ := hst
  dsimp only at htrail hentered hclosing
  subst hentered
  cases htrail with
  | nil => exact ⟨.nil, rfl, hclosing⟩
  | @cons a b rest rest' hab hrest =>
    obtain ⟨id, es⟩ := a
    obtain ⟨id', es'⟩ := b
    obtain ⟨rfl, hes⟩ := hab
    dsimp only at hes
    cases hes with
    | nil => exact ⟨hrest, rfl, hclosing⟩
    | @cons d e ds es hde hes =>
      -- Whether an edge closes a cycle depends on the ids on the trail and on those of the edges reported.
      have hrest' : List.Forall₂ (fun a b => b.1 = a.1 ∧ List.Forall₂ (Edge.Alike f) a.2 b.2) ((id', ds) :: rest)
          ((id', es) :: rest') := .cons ⟨rfl, hes⟩ hrest
      have hon : ((id', es) :: rest').any (·.1 == d.target) = ((id', ds) :: rest).any (·.1 == d.target) :=
        any_eq_of_forall₂ hrest' fun a b _ hab => by rw [hab.1]
      have hreported : closing'.any (·.id == d.id) = closing.any (·.id == d.id) :=
        any_eq_of_forall₂ hclosing fun a b _ hab => by rw [hab.id]
      have hnone : (g.node? d.target).isNone = (f.node? d.target).isNone := by
        rcases h.node? d.target with ⟨hm, hn⟩ | ⟨m, n, hm, hn, -⟩
        · rw [hm, hn]
        · rw [hm, hn, Option.isNone_some, Option.isNone_some]
      simp only [Search.step, Search.onTrail, Search.report, hde.target, hde.id, hon, hreported, hnone]
      split
      · split
        · exact ⟨hrest', rfl, hclosing⟩
        · exact ⟨hrest', rfl, List.rel_append hclosing (.cons hde .nil)⟩
      · split
        · exact ⟨hrest', rfl, hclosing⟩
        · exact h.search_enter (s := ⟨(id', ds) :: rest, entered', closing⟩)
            (t := ⟨(id', es) :: rest', entered', closing'⟩) ⟨hrest', rfl, hclosing⟩ d.target

private theorem search_run (h : f.SameFrame g) (fuel : Nat) {s t : Search} (hst : s.Alike f t) :
    (Search.run f fuel s).Alike f (Search.run g fuel t) := by
  induction fuel generalizing s t with
  | zero => exact hst
  | succ fuel ih => exact ih (h.search_step hst)

/-- The edges that close cycles are alike. -/
theorem closingEdges (h : f.SameFrame g) : List.Forall₂ (Edge.Alike f) f.closingEdges g.closingEdges := by
  have hfrom {s t : Search} (hst : s.Alike f t) (id : String) :
      (s.searchFrom f id).Alike f (t.searchFrom g id) := by
    rw [Search.searchFrom, Search.searchFrom, hst.entered, h.edges.length_eq, h.nodes.length_eq]
    split
    · exact hst
    · exact h.search_run _ (h.search_enter hst id)
  have hall {ms ns : List Node} (hnodes : List.Forall₂ Node.SameFrame ms ns) {s t : Search} (hst : s.Alike f t) :
      (ms.foldl (fun s n => s.searchFrom f n.id) s).Alike f (ns.foldl (fun s n => s.searchFrom g n.id) t) := by
    induction hnodes generalizing s t with
    | nil => exact hst
    | cons hn _ ih =>
      refine ih ?_
      dsimp only
      rw [hn.id]
      exact hfrom hst _
  exact (hall h.nodes ⟨.nil, rfl, .nil⟩).closing

end SameFrame

end Flow

namespace Flow

/-- Two flows of nodes and edges that are alike. The names, the time limit and the timestamps may differ as well. -/
structure Alike (f g : Flow) : Prop where
  id : g.id = f.id
  retries : g.config.retries = f.config.retries
  errorHandling : g.config.errorHandling = f.config.errorHandling
  nodes : List.Forall₂ Node.Alike f.nodes g.nodes
  edges : List.Forall₂ (Edge.Alike f) f.edges g.edges

namespace Alike

variable {f g : Flow}

theorem sameFrame (h : f.Alike g) : f.SameFrame g :=
  ⟨h.nodes.imp fun _ _ hn => hn.toSameFrame, h.edges⟩

end Alike

end Flow

/-! ### What the checks find -/

namespace Validator

open IntegrationFlow.Flow

variable {r : Registry} {f g : Flow}

theorem nodeFindings_eq_of_sameFrame {ms ns : List Node} (h : List.Forall₂ Node.SameFrame ms ns) (seen : List String) :
    nodeFindings r seen ns = nodeFindings r seen ms := by
  induction h generalizing seen with
  | nil => rfl
  | cons hn _ ih => rw [nodeFindings, nodeFindings, ih, hn.id, hn.type]

private theorem portFindings_eq_of_sameFrame {d e : Edge} {m n m' n' : Node} (he : d.Alike f e)
    (hm : f.node? d.source = some m) (hn : f.node? d.target = some n) (hm' : m.SameFrame m') (hn' : n.SameFrame n') :
    portFindings e m' n' = portFindings d m n := by
  rw [portFindings, portFindings, hm'.output?_eq, hn'.input?_eq, he.output m hm, he.input n hn, he.id]

theorem edgeFindings_eq_of_sameFrame (h : f.SameFrame g) {ds es : List Edge} (hes : List.Forall₂ (Edge.Alike f) ds es)
    (seen : SeenEdges) : edgeFindings g seen es = edgeFindings f seen ds := by
  induction hes generalizing seen with
  | nil => rfl
  | @cons d e ds es he _ ih =>
    unfold edgeFindings
    simp only [he.source, he.target, he.id, h.edgeKey_eq, he.key, ih]
    rcases h.node? d.source with ⟨hm, hm'⟩ | ⟨m, m', hm, hm', hsource⟩
    · simp only [hm, hm']
    · rcases h.node? d.target with ⟨hn, hn'⟩ | ⟨n, n', hn, hn', htarget⟩
      · simp only [hm, hm', hn, hn']
      · simp only [hm, hm', hn, hn', portFindings_eq_of_sameFrame he hm hn hsource htarget]

/-- The entry points of two flows correspond when the nodes do, as far as these have the same types. -/
theorem ingressNodes_of_forall₂ {rel : Node → Node → Prop} (hrel : ∀ m n, rel m n → n.type = m.type)
    (h : List.Forall₂ rel f.nodes g.nodes) : List.Forall₂ rel (ingressNodes r f) (ingressNodes r g) :=
  filter_of_forall₂ h fun m n hn => by rw [Registry.isIngress, Registry.isIngress, hrel m n hn]

private theorem ingressFindings_eq_of_sameFrame (h : f.SameFrame g) : ingressFindings r g = ingressFindings r f := by
  have hnodes := ingressNodes_of_forall₂ (r := r) (fun _ _ hn => Node.SameFrame.type hn) h.nodes
  unfold ingressFindings
  generalize ingressNodes r f = ms, ingressNodes r g = ns at hnodes
  cases hnodes with
  | nil => rfl
  | cons hfirst hothers =>
    dsimp only
    rw [hfirst.id, map_eq_of_forall₂ hothers fun _ _ hn => congrArg Finding.extraIngress hn.id,
      map_eq_of_forall₂ (h.incoming _) fun _ _ he => congrArg (Finding.edgeIntoIngress _) he.id]

private theorem reachabilityFindings_eq_of_sameFrame (h : f.SameFrame g) :
    reachabilityFindings r g = reachabilityFindings r f := by
  have hnodes := ingressNodes_of_forall₂ (r := r) (fun _ _ hn => Node.SameFrame.type hn) h.nodes
  unfold reachabilityFindings
  generalize ingressNodes r f = ms, ingressNodes r g = ns at hnodes
  cases hnodes with
  | nil => rfl
  | cons hfirst _ =>
    dsimp only
    rw [hfirst.id, h.reachable_eq]
    exact map_eq_of_forall₂ (filter_of_forall₂ h.nodes fun _ _ hn => by rw [hn.id]) fun _ _ hn =>
      congrArg Finding.unreachable hn.id

private theorem cycleFindings_eq_of_sameFrame (h : f.SameFrame g) : cycleFindings g = cycleFindings f :=
  map_eq_of_forall₂ h.closingEdges fun _ _ he => by rw [he.id, he.target]

/-- The check of the configurations finds nothing when nothing is wrong with any of them. -/
theorem configFindings_eq_nil
    (h : ∀ n ∈ f.nodes, ∀ t, r.find? n.type = some t → t.configProblems n.data.config = []) :
    configFindings r f = [] := by
  refine List.flatMap_eq_nil_iff.2 fun n hn => ?_
  cases ht : r.find? n.type with
  | none => rfl
  | some t => exact List.map_eq_nil_iff.2 (h n hn t ht)

private theorem configFindings_eq_of_alike (h : f.Alike g) : configFindings r g = configFindings r f :=
  flatMap_eq_of_forall₂ h.nodes fun _ _ _ hn => by rw [hn.type, hn.id, hn.config]

/-- An edge leaves a node through the same output in both flows when the node has the outputs of the first one with its
id. -/
theorem isWired_eq_of_outputs_eq (h : f.SameFrame g) {m n : Node} (hm : f.node? n.id = some m)
    (houtputs : m.data.outputs = n.data.outputs) (port : String) : isWired g n port = isWired f n port := by
  refine any_eq_of_forall₂ (h.outgoing n.id) fun d e hd he => ?_
  have hnode : f.node? d.source = some m := (mem_outgoing.1 hd).2 ▸ hm
  have houtput := he.output m hnode
  rw [Node.output?, Node.output?, houtputs] at houtput
  rw [Node.output?, Node.output?, houtput]

/-- An edge leaves a node through the same output in both flows when corresponding edges name the same output. -/
theorem isWired_eq_of_ports_eq {n : Node}
    (h : List.Forall₂ (fun d e => e.source = d.source ∧ e.sourcePort? = d.sourcePort?) f.edges g.edges)
    (port : String) : isWired g n port = isWired f n port :=
  any_eq_of_forall₂ (filter_of_forall₂ h fun _ _ he => by rw [he.1]) fun _ _ _ he => by rw [he.2]

/-- Nodes of one frame are judged alike, as far as the judgment is asked for. -/
private theorem filter_branchFindings_eq_of_sameFrame (h : f.SameFrame g) {p : Finding → Bool}
    (hwired : ∀ n ∈ f.nodes, ∀ port, p (.openBranch n.id port) = true → isWired g n port = isWired f n port) :
    (branchFindings r g).filter p = (branchFindings r f).filter p := by
  rw [branchFindings, branchFindings, List.filter_flatMap, List.filter_flatMap]
  refine flatMap_eq_of_forall₂ h.nodes fun m n hm hn => ?_
  rw [hn.type]
  cases r.find? m.type with
  | none => rfl
  | some t =>
    dsimp only
    split
    · rw [List.filter_map, List.filter_map, List.filter_filter, List.filter_filter, hn.id]
      refine congrArg _ (List.filter_congr fun port _ => ?_)
      have hsame : isWired g n port = isWired g m port := by
        unfold isWired
        rw [hn.id]
        simp only [hn.output?_eq]
      rw [hsame]
      cases hp : p (.openBranch m.id port) with
      | false => simp [hp]
      | true => rw [hwired m hm port hp]
    · rfl

/-- The checks find the same in flows of one frame with equally good configurations, as far as they are asked and judge
alike whether the outputs of a node are wired. -/
theorem filter_check_eq_of_sameFrame (r : Registry) (h : f.SameFrame g)
    (hconfig : configFindings r g = configFindings r f) {p : Finding → Bool}
    (hwired : ∀ n ∈ f.nodes, ∀ port, p (.openBranch n.id port) = true → isWired g n port = isWired f n port) :
    (check r g).filter p = (check r f).filter p := by
  simp only [check, checkStructure, List.filter_append, nodeFindings_eq_of_sameFrame h.nodes,
    edgeFindings_eq_of_sameFrame h h.edges, ingressFindings_eq_of_sameFrame h, reachabilityFindings_eq_of_sameFrame h,
    cycleFindings_eq_of_sameFrame h, hconfig, filter_branchFindings_eq_of_sameFrame h hwired]

/-- The checks find the same in flows that are alike, as far as they are asked and judge alike whether the outputs of a
node are wired. -/
theorem filter_check_eq (r : Registry) (h : f.Alike g) {p : Finding → Bool}
    (hwired : ∀ n ∈ f.nodes, ∀ port, p (.openBranch n.id port) = true → isWired g n port = isWired f n port) :
    (check r g).filter p = (check r f).filter p :=
  filter_check_eq_of_sameFrame r h.sameFrame (configFindings_eq_of_alike h) hwired

/-- The checks find the same in flows of one frame with equally good configurations, when they judge alike which outputs
are wired. -/
theorem check_eq_of_sameFrame (r : Registry) (h : f.SameFrame g) (hconfig : configFindings r g = configFindings r f)
    (hwired : ∀ n ∈ f.nodes, ∀ port, isWired g n port = isWired f n port) : check r g = check r f := by
  have hfilter := filter_check_eq_of_sameFrame r h hconfig (p := fun _ => true) fun n hn port _ => hwired n hn port
  simpa using hfilter

/-- The checks find the same in flows that are alike, when they judge alike which outputs are wired. -/
theorem check_eq_of_alike (r : Registry) (h : f.Alike g)
    (hwired : ∀ n ∈ f.nodes, ∀ port, isWired g n port = isWired f n port) : check r g = check r f :=
  check_eq_of_sameFrame r h.sameFrame (configFindings_eq_of_alike h) hwired

end Validator

/-! ### What is only shown -/

/-- The node without its label and its place. -/
def Node.core (n : Node) : Node :=
  { n with position := {}, data := { n.data with label := "" } }

/-- The edge without its branch label. -/
def Edge.core (e : Edge) : Edge :=
  { e with data := { e.data with condition? := none } }

namespace Flow

/-- The flow without what is only shown to its authors: names, descriptions, labels, places, times, and a time limit
that nothing enforces. -/
def core (f : Flow) : Flow :=
  { f with
    name := ""
    description := ""
    version := ""
    nodes := f.nodes.map Node.core
    edges := f.edges.map Edge.core
    config := { f.config with timeout := 0 }
    createdAt := default
    updatedAt := default }

variable {f g : Flow}

private theorem forall₂_of_map_eq {α β : Type} {p : α → β} {as bs : List α} (h : bs.map p = as.map p) :
    List.Forall₂ (fun a b => p b = p a) as bs := by
  rw [← List.forall₂_eq_eq_eq, List.forall₂_map_left_iff, List.forall₂_map_right_iff] at h
  exact h.flip

/-- Flows with the same core are alike. -/
theorem alike_of_core_eq (h : g.core = f.core) : f.Alike g := by
  obtain ⟨hid, -, -, -, hnodes, hedges, hconfig, -, -⟩ := Flow.mk.inj h
  obtain ⟨-, hretries, herrorHandling⟩ := FlowConfig.mk.inj hconfig
  refine ⟨hid, hretries, herrorHandling, (forall₂_of_map_eq hnodes).imp fun m n hn => ?_,
    (forall₂_of_map_eq hedges).imp fun d e he => ?_⟩
  · obtain ⟨hid, htype, -, hdata⟩ := Node.mk.inj hn
    obtain ⟨-, hconfig, hinputs, houtputs⟩ := NodeData.mk.inj hdata
    exact ⟨⟨hid, htype, hinputs, houtputs⟩, hconfig⟩
  · obtain ⟨hid, hsource, htarget, houtput, hinput, hdata⟩ := Edge.mk.inj he
    exact Edge.alike_of_ports_eq hid hsource htarget (EdgeData.mk.inj hdata).2 houtput hinput

/-- The checks look at the core of a flow only. -/
theorem check_eq_of_core_eq (r : Registry) (h : g.core = f.core) : Validator.check r g = Validator.check r f := by
  refine Validator.check_eq_of_alike r (alike_of_core_eq h) fun _ _ => Validator.isWired_eq_of_ports_eq ?_
  refine (forall₂_of_map_eq (Flow.mk.inj h).2.2.2.2.2.1).imp fun d e he => ?_
  obtain ⟨-, hsource, -, houtput, -⟩ := Edge.mk.inj he
  exact ⟨hsource, houtput⟩

end Flow

end IntegrationFlow
