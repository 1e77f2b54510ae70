import IntegrationFlow.Proofs.Editor.Objection
import IntegrationFlow.Proofs.Run.Alike

/-!
# Ports that are left out

An edge that leaves out a port means the first one of its node. To spell it out, as the connection has it, changes
nothing about the edge (`Edge.SpelledOut.alike`), and so nothing about the flow: what the checks find, how further edges
are received (`answersAlike_addEdge`), and what a run does (`transparent`). Only where nodes with different outputs
share an id, which the checks report, does the check of the branches tell the difference: it reads an edge by the
outputs of each of these nodes, while the connection has the ports of the first one (`not_transparent_forked`).
-/

namespace IntegrationFlow

open IntegrationFlow.Flow

/-- A port that is filled in is the one that was meant. -/
theorem findPort_filled (ports : List Port) (id? : Option String) :
    findPort ports (((findPort ports id?).map (·.id)).or id?) = findPort ports id? := by
  cases hfound : findPort ports id? with
  | none => exact hfound
  | some p => exact Editor.findPort_id hfound

/-- The second edge is the first one with some of its ports as the connection has them. -/
structure Edge.SpelledOut (f : Flow) (d e : Edge) : Prop where
  id : e.id = d.id
  source : e.source = d.source
  target : e.target = d.target
  data : e.data = d.data
  sourcePort? : e.sourcePort? = d.sourcePort? ∨ e.sourcePort? = (f.edgeKey d).sourcePort?
  targetPort? : e.targetPort? = d.targetPort? ∨ e.targetPort? = (f.edgeKey d).targetPort?

namespace Edge.SpelledOut

variable {f : Flow} {d e : Edge}

theorem refl (f : Flow) (d : Edge) : d.SpelledOut f d :=
  ⟨rfl, rfl, rfl, rfl, .inl rfl, .inl rfl⟩

theorem output (h : d.SpelledOut f e) {n : Node} (hn : f.node? d.source = some n) :
    n.output? e.sourcePort? = n.output? d.sourcePort? := by
  rcases h.sourcePort? with hsame | hfilled
  · rw [hsame]
  · rw [hfilled, edgeKey, Flow.sourcePort?, hn]
    exact findPort_filled _ _

theorem input (h : d.SpelledOut f e) {n : Node} (hn : f.node? d.target = some n) :
    n.input? e.targetPort? = n.input? d.targetPort? := by
  rcases h.targetPort? with hsame | hfilled
  · rw [hsame]
  · rw [hfilled, edgeKey, Flow.targetPort?, hn]
    exact findPort_filled _ _

/-- What stands for a port in a connection is the port that is found, or else what is given. -/
private theorem or_eq_of_filled {found? : Option Port} {given? filled? : Option String}
    (h : filled? = given? ∨ filled? = (found?.map (·.id)).or given?) :
    (found?.map (·.id)).or filled? = (found?.map (·.id)).or given? := by
  rcases h with rfl | rfl
  · rfl
  · cases found? <;> rfl

/-- The connection is the same. -/
theorem edgeKey_eq (h : d.SpelledOut f e) : f.edgeKey e = f.edgeKey d := by
  have hsource : f.sourcePort? e = f.sourcePort? d := by
    rw [Flow.sourcePort?, Flow.sourcePort?, h.source]
    exact Option.bind_congr fun n hn => h.output hn
  have htarget : f.targetPort? e = f.targetPort? d := by
    rw [Flow.targetPort?, Flow.targetPort?, h.target]
    exact Option.bind_congr fun n hn => h.input hn
  rw [edgeKey, edgeKey, hsource, htarget, h.source, h.target, or_eq_of_filled h.sourcePort?,
    or_eq_of_filled h.targetPort?]

theorem alike (h : d.SpelledOut f e) : d.Alike f e where
  id := h.id
  source := h.source
  target := h.target
  mapping := by rw [h.data]
  output := fun _ hn => h.output hn
  input := fun _ hn => h.input hn
  key := h.edgeKey_eq

end Edge.SpelledOut

namespace Flow

/-- The second flow is the first one with some of its ports spelled out. -/
structure SpelledOut (f g : Flow) : Prop where
  rest : g = { f with edges := g.edges }
  edges : List.Forall₂ (Edge.SpelledOut f) f.edges g.edges

/-- The nodes with an id have the same outputs. -/
def OutputsAgree (f : Flow) (id : String) : Prop :=
  ∀ m ∈ f.nodes, ∀ n ∈ f.nodes, m.id = id → n.id = id → m.data.outputs = n.data.outputs

theorem outputsAgree_of_nodup {f : Flow} (h : f.nodeIds.Nodup) (id : String) : f.OutputsAgree id := by
  intro m hm n hn hmid hnid
  rw [List.inj_on_of_nodup_map h hm hn (hmid.trans hnid.symm)]

namespace SpelledOut

variable {f g : Flow}

theorem nodes_eq (h : f.SpelledOut g) : g.nodes = f.nodes := by
  rw [h.rest]

theorem alike (h : f.SpelledOut g) : f.Alike g where
  id := by rw [h.rest]
  retries := by rw [h.rest]
  errorHandling := by rw [h.rest]
  nodes := by
    rw [h.nodes_eq]
    exact List.forall₂_same.2 fun n _ => .refl n
  edges := h.edges.imp fun _ _ he => he.alike

/-- Every edge makes the connection that it made before. -/
theorem forall₂_edgeKey_eq (h : f.SpelledOut g) :
    List.Forall₂ (fun d e => f.edgeKey e = f.edgeKey d ∧ g.edgeKey e = f.edgeKey d) f.edges g.edges :=
  h.edges.imp fun _ _ he => ⟨he.edgeKey_eq, (h.alike.sameFrame.edgeKey_eq _).trans he.edgeKey_eq⟩

/-- The checks find the same, as far as they are not asked about the branches of nodes that share an id but not their
outputs. -/
theorem filter_check_eq (h : f.SpelledOut g) (r : Registry) {p : Finding → Bool}
    (hp : ∀ node port, p (.openBranch node port) = true → f.OutputsAgree node) :
    (Validator.check r g).filter p = (Validator.check r f).filter p := by
  refine Validator.filter_check_eq r h.alike fun n hn port hasked => ?_
  cases hfound : f.node? n.id with
  | none => exact absurd (List.mem_map_of_mem hn) (node?_eq_none_iff.1 hfound)
  | some m =>
    obtain ⟨hm, hid⟩ := mem_of_node?_eq_some hfound
    exact Validator.isWired_eq_of_outputs_eq h.alike.sameFrame hfound (hp n.id port hasked m hm n hn hid rfl) port

/-- When nodes that share an id have the same outputs, the checks find the same. -/
theorem check_eq (h : f.SpelledOut g) (r : Registry) (houtputs : ∀ id, f.OutputsAgree id) :
    Validator.check r g = Validator.check r f := by
  have hfilter := h.filter_check_eq r (p := fun _ => true) fun id _ _ => houtputs id
  simpa using hfilter

end SpelledOut

end Flow

namespace Editor

/-! ### Further edges -/

/-- Two flows received an edit in the same way: both refused it for one reason, or both got the same edge. -/
inductive AnswersAlike (f g : Flow) : Except Refusal (Flow × Change) × IdSupply →
    Except Refusal (Flow × Change) × IdSupply → Prop where
  | refused (why : Refusal) (ids : IdSupply) : AnswersAlike f g (.error why, ids) (.error why, ids)
  | added (e : Edge) (change : Change) (now : Time.Timestamp) (ids : IdSupply) : AnswersAlike f g
      (.ok ({ withEdge f e with updatedAt := now }, change), ids)
      (.ok ({ withEdge g e with updatedAt := now }, change), ids)

variable {f g : Flow}

/-- A further edge is received in the same way. -/
theorem answersAlike_addEdge (h : f.SpelledOut g) (r : Registry) (now : Time.Timestamp) (source target : String)
    (sourcePort? targetPort? : Option String) (ids : IdSupply) :
    AnswersAlike f g ((carryOut r now f (.addEdge source target sourcePort? targetPort?)).run.run ids)
      ((carryOut r now g (.addEdge source target sourcePort? targetPort?)).run.run ids) := by
  have hnode : g.node? = f.node? := funext fun id => by rw [node?, node?, h.nodes_eq]
  have hkey : g.edgeKey = f.edgeKey := funext h.alike.sameFrame.edgeKey_eq
  have hids : g.nodeIds ++ g.edgeIds = f.nodeIds ++ f.edgeIds := by
    rw [h.alike.sameFrame.nodeIds_eq, h.alike.sameFrame.edgeIds_eq]
  rw [run_carryOut, run_carryOut, outcome, outcome, addEdge, addEdge, hnode, hkey]
  cases f.node? source with
  | none => exact .refused _ _
  | some s =>
    cases f.node? target with
    | none => exact .refused _ _
    | some t =>
      dsimp only
      by_cases hingress : r.isIngress t = true
      · rw [if_pos hingress, if_pos hingress]
        exact .refused _ _
      · rw [if_neg hingress, if_neg hingress]
        cases s.output? sourcePort? with
        | none => exact .refused _ _
        | some p =>
          cases t.input? targetPort? with
          | none => exact .refused _ _
          | some q =>
            dsimp only
            cases isAssignable p.type q.type with
            | false => exact .refused _ _
            | true =>
              simp only [Bool.not_true, Bool.false_eq_true, if_false, run_newId_bind, hids]
              -- The connection is looked for among edges that make the same connections.
              generalize f.edgeKey ⟨_, source, target, _, _, _⟩ = key
              have hfind := find?_of_forall₂ (p := fun d => f.edgeKey d = key) (q := fun e => f.edgeKey e = key)
                h.alike.edges fun d e he => by rw [he.key]
              rcases hfind with ⟨hd, he⟩ | ⟨d, e, hd, he, halike⟩
              · rw [hd, he]
                exact .added _ _ now _
              · rw [hd, he]
                dsimp only
                rw [halike.id]
                exact .refused _ _

end Editor

/-! ### All together -/

namespace Flow

/-- To spell out ports changes no connection, neither what the checks find nor how further edges are received, and not
what a valid flow does. The checks are asked about all but the branches of nodes that share an id but not their
outputs. -/
theorem SpelledOut.transparent {f g : Flow} (h : f.SpelledOut g) (r : Registry) :
    List.Forall₂ (fun d e => f.edgeKey e = f.edgeKey d ∧ g.edgeKey e = f.edgeKey d) f.edges g.edges ∧
      ((∀ id, f.OutputsAgree id) → Validator.check r g = Validator.check r f) ∧
      (∀ p : Finding → Bool, (∀ node port, p (.openBranch node port) = true → f.OutputsAgree node) →
        (Validator.check r g).filter p = (Validator.check r f).filter p) ∧
      (∀ now source target sourcePort? targetPort? ids,
        Editor.AnswersAlike f g
          ((Editor.carryOut r now f (.addEdge source target sourcePort? targetPort?)).run.run ids)
          ((Editor.carryOut r now g (.addEdge source target sourcePort? targetPort?)).run.run ids)) ∧
      ∀ (engine : Run.Engine) (request : Run.Request), engine.registry = r → f.Valid r →
        engine.run g request = engine.run f request := by
  refine ⟨h.forall₂_edgeKey_eq, h.check_eq r, fun _ hp => h.filter_check_eq r hp,
    fun now source target sourcePort? targetPort? ids =>
      Editor.answersAlike_addEdge h r now source target sourcePort? targetPort? ids, ?_⟩
  rintro engine request rfl valid
  exact Run.run_eq_of_alike h.alike
    (h.check_eq engine.registry fun id => outputsAgree_of_nodup valid.nodup_nodeIds id) request

/-- The diamond with some of its ports spelled out. -/
def spelledDiamond : Flow :=
  { Run.diamond with
    edges := [{ id := "1", source := "start", target := "right" },
      { id := "2", source := "start", target := "left", sourcePort? := some "success", targetPort? := some "input" },
      { id := "3", source := "left", target := "join", targetPort? := some "input" },
      { id := "4", source := "left", target := "join", sourcePort? := some "error" },
      { id := "5", source := "right", target := "join" }] }

theorem transparent_diamond : Run.diamond.SpelledOut spelledDiamond ∧ Run.diamond.Valid .builtin ∧
    Validator.check .builtin spelledDiamond = Validator.check .builtin Run.diamond ∧
      ∀ request : Run.Request,
        ({} : Run.Engine).run spelledDiamond request = ({} : Run.Engine).run Run.diamond request := by
  have hspelled : Run.diamond.SpelledOut spelledDiamond :=
    ⟨rfl, .cons (.refl _ _) (.cons ⟨rfl, rfl, rfl, rfl, .inr (by decide), .inr (by decide)⟩
      (.cons ⟨rfl, rfl, rfl, rfl, .inl rfl, .inr (by decide)⟩ (.cons (.refl _ _) (.cons (.refl _ _) .nil))))⟩
  have valid : Run.diamond.Valid .builtin := by decide
  obtain ⟨-, hcheck, -, -, hrun⟩ := hspelled.transparent .builtin
  exact ⟨hspelled, valid, hcheck fun id => outputsAgree_of_nodup valid.nodup_nodeIds id,
    fun request => hrun {} request rfl valid⟩

/-- A flow in which a box and a condition share an id. -/
def forked : Flow where
  id := "forked"
  name := "Forked"
  nodes := [Kind.ingress.node "start" [], Kind.serviceBox.node "fork" [], Kind.condition.node "fork" [],
    Kind.serviceBox.node "end" []]
  edges := [{ id := "1", source := "start", target := "fork" }, { id := "2", source := "fork", target := "end" }]
  createdAt := default
  updatedAt := default

/-- The same flow with a port of its second edge spelled out. -/
def spelledForked : Flow :=
  { forked with
    edges := [{ id := "1", source := "start", target := "fork" },
      { id := "2", source := "fork", target := "end", sourcePort? := some "output" }] }

/-- The edge means the output of the box, but when its port is left out it also counts for the condition. -/
theorem not_transparent_forked : forked.SpelledOut spelledForked ∧
    Validator.check .builtin spelledForked ≠ Validator.check .builtin forked :=
  ⟨⟨rfl, .cons (.refl _ _) (.cons ⟨rfl, rfl, rfl, rfl, .inr (by decide), .inl rfl⟩ .nil)⟩, by decide⟩

end Flow

end IntegrationFlow
