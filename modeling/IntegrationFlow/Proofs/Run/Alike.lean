import IntegrationFlow.Proofs.Flow.Alike
import IntegrationFlow.Proofs.Run.Course

/-!
# Runs of flows that are alike

A visit depends on a flow through the edges of the node, and through the node that an error handler tries again. So the
visits of two nodes are the same when the nodes have the same frame and do the same, and that much of their flows is alike
(`visit_of_matches`, with one lemma for each part of a visit). Nodes that are alike do the same (`visit_over`), and runs of
flows are the same in which all nodes do (`execute_of_matches`).
-/

namespace IntegrationFlow.Run

open Simulation Sim

/-- The run of another flow of which everything else is the same. -/
def Env.over (env : Env) (g : Flow) : Env :=
  { env with flow := g }

section

variable {env : Env} {g : Flow}

@[simp] theorem Env.flow_over : (env.over g).flow = g := rfl

@[simp] theorem Env.engine_over : (env.over g).engine = env.engine := rfl

@[simp] theorem Env.execution_over : (env.over g).execution = env.execution := rfl

theorem publish_over (e : Event) : publish (env.over g) e = publish env e := rfl

theorem suspend_over (ms : Int) : suspend (env.over g) ms = suspend env ms := rfl

theorem record_over (hid : g.id = env.flow.id) (r : Record) : record (env.over g) r = record env r := by
  unfold record
  rw [Env.flow_over, hid]
  rfl

variable {n n' : Node}

theorem typeOf_over (hn : n.SameFrame n') : typeOf (env.over g) n' = typeOf env n := by
  rw [typeOf, typeOf, hn.type, hn.id]
  rfl

theorem durationOf_over (hn : n.Alike n') : durationOf (env.over g) n' = durationOf env n := by
  rw [durationOf, durationOf, DurationModel.ofNode, DurationModel.ofNode, hn.type, hn.config]
  rfl

/-! ### Carrying out a node -/

private theorem circuitName_of_alike (hn : n.Alike n') : circuitName n' = circuitName n := by
  unfold circuitName setting settingText
  rw [hn.id, hn.type, hn.config]

private theorem settingCell_of_id_eq (hn : n'.id = n.id) : settingCell n' = settingCell n := by
  funext field v
  rw [settingCell, settingCell, hn]

private theorem connectorAnswer_of_alike (hn : n.Alike n') : connectorAnswer n' = connectorAnswer n := by
  funext c b input
  unfold connectorAnswer setting
  rw [settingCell_of_id_eq hn.id, hn.config]

private theorem serviceAnswer_of_alike (hn : n.Alike n') : serviceAnswer n' = serviceAnswer n := by
  funext c b input
  unfold serviceAnswer setting
  rw [settingCell_of_id_eq hn.id, hn.config]

section

variable (hn : n.Alike n') (hid : g.id = env.flow.id) (config : OutboundConfig) (circuit : String)

include hn hid

private theorem reportFailure_over :
    OutboundCall.reportFailure ⟨n', config, circuit⟩ (env.over g) =
      OutboundCall.reportFailure ⟨n, config, circuit⟩ env := by
  simp only [OutboundCall.reportFailure, hn.id, Env.flow_over, hid]
  rfl

private theorem attempt_over :
    OutboundCall.attempt ⟨n', config, circuit⟩ (env.over g) = OutboundCall.attempt ⟨n, config, circuit⟩ env := by
  simp only [OutboundCall.attempt, hn.id, durationOf_over hn, reportFailure_over hn hid, suspend_over]
  rfl

private theorem beforeAttempt_over (number : Nat) (last? : Option FailureCause) :
    OutboundCall.beforeAttempt ⟨n', config, circuit⟩ (env.over g) number last? =
      OutboundCall.beforeAttempt ⟨n, config, circuit⟩ env number last? := by
  simp only [OutboundCall.beforeAttempt, hn.id, Env.flow_over, hid]
  rfl

private theorem attempts_over (remaining number : Nat) (elapsed : Int) (last? : Option FailureCause) :
    OutboundCall.attempts ⟨n', config, circuit⟩ (env.over g) remaining number elapsed last? =
      OutboundCall.attempts ⟨n, config, circuit⟩ env remaining number elapsed last? := by
  induction remaining generalizing number elapsed last? with
  | zero => rfl
  | succ remaining ih =>
    simp only [OutboundCall.attempts, beforeAttempt_over hn hid, attempt_over hn hid, ih]
    rfl

private theorem outcome_over (answer : Cell) (called? : Option (Value × Value)) :
    OutboundCall.outcome ⟨n', config, circuit⟩ (env.over g) answer called? =
      OutboundCall.outcome ⟨n, config, circuit⟩ env answer called? := by
  simp only [OutboundCall.outcome, OutboundCall.run, attempts_over hn hid, hn.id]

end

private theorem query_over (hn : n.Alike n') (c : DatabaseConfig) (b : Birth) (input : Cell) :
    query (env.over g) n' c b input = query env n c b input := by
  simp only [query, durationOf_over hn, suspend_over, settingCell, hn.id]

private theorem behave_of_sameFrame (hn : n.SameFrame n') (input : Cell) (b : Behaviour) :
    behave n' input b = behave n input b := by
  cases b with
  | fail => simp only [behave, hn.id]
  | _ => rfl

/-- What a node does is a matter of its type and its configuration. -/
theorem work_over (hn : n.Alike n') (hid : g.id = env.flow.id) (c : Config) (b : Birth) (input : Cell) :
    work (env.over g) n' c b input = work env n c b input := by
  cases c with
  | transform | condition => simp only [work, hn.id]
  | connector =>
    simp only [work, setting, circuitName_of_alike hn, connectorAnswer_of_alike hn, hn.config, outcome_over hn hid]
  | serviceCall =>
    simp only [work, circuitName_of_alike hn, serviceAnswer_of_alike hn, outcome_over hn hid]
  | database => exact query_over hn _ _ _
  | ingress | serviceBox | errorHandler => rfl

theorem finishTiming_of_durationOf_eq (h : durationOf (env.over g) n' = durationOf env n) (o : NodeOutcome) :
    finishTiming (env.over g) n' o = finishTiming env n o := by
  simp only [finishTiming, h]

private theorem semanticsOf_over (hn : n.Alike n') : semanticsOf (env.over g) n' = semanticsOf env n := by
  simp only [semanticsOf, typeOf_over hn.toSameFrame, hn.id, hn.type, hn.config, Env.engine_over]

private theorem reinvoke_over (hn : n.Alike n') (hid : g.id = env.flow.id) :
    reinvoke (env.over g) n' = reinvoke env n := by
  funext p
  simp only [reinvoke, semanticsOf_over hn, hn.id, work_over hn hid, behave_of_sameFrame hn.toSameFrame,
    finishTiming_of_durationOf_eq (durationOf_over hn)]

private theorem recordOutcome_over (hn : n.SameFrame n') (hid : g.id = env.flow.id) (o : NodeOutcome) (output : Place) :
    recordOutcome (env.over g) n' o output = recordOutcome env n o output := by
  simp only [recordOutcome, hn.id, hn.type, record_over hid]

/-! ### Error handlers -/

private theorem retrying_over {origin origin' : Node} (hn : n.SameFrame n') (horigin : origin.SameFrame origin')
    (hagain : reinvoke (env.over g) origin' = reinvoke env origin) (hid : g.id = env.flow.id) (c : ErrorHandlerConfig)
    (base : Int) (remaining done waited : Nat) (last : Failure) :
    Retrying.attempts ⟨n', c, origin', base⟩ (env.over g) remaining done waited last =
      Retrying.attempts ⟨n, c, origin, base⟩ env remaining done waited last := by
  induction remaining generalizing done waited last with
  | zero => rfl
  | succ remaining ih =>
    simp only [Retrying.attempts, suspend_over, publish_over, hagain,
      recordOutcome_over horigin hid, hn.id, horigin.id, hid, Env.flow_over, Env.execution_over, ih]
    rfl

/-- There are nodes with an id in both flows, or in none of them. The first ones are alike. -/
def AlikeAt (f g : Flow) (id : String) : Prop :=
  f.node? id = none ∧ g.node? id = none ∨ ∃ m n, f.node? id = some m ∧ g.node? id = some n ∧ m.Alike n

/-- There are nodes with an id in both flows, or in none of them. To try the first ones again is the same. -/
def RetriesAlikeAt (env : Env) (g : Flow) (id : String) : Prop :=
  env.flow.node? id = none ∧ g.node? id = none ∨ ∃ m n, env.flow.node? id = some m ∧ g.node? id = some n ∧
    m.SameFrame n ∧ reinvoke (env.over g) n = reinvoke env m

private theorem AlikeAt.retries {id : String} (h : AlikeAt env.flow g id) (hid : g.id = env.flow.id) :
    RetriesAlikeAt env g id :=
  h.imp_right fun hfound => by
    obtain ⟨m, n, hm, hn, halike⟩ := hfound
    exact ⟨m, n, hm, hn, halike.toSameFrame, reinvoke_over halike hid⟩

/-- Two flows have one id, and their handlers deal with failures in the same way. -/
structure SameDefaults (f g : Flow) : Prop where
  id : g.id = f.id
  retries : g.config.retries = f.config.retries
  errorHandling : g.config.errorHandling = f.config.errorHandling

/-- Two computations do the same from a state when their first steps do, and the next ones from where these lead. -/
theorem bind_eq_bind {α β : Type} {x x' : Sim α} {k k' : α → Sim β} {s : State} (hx : x' s = x s)
    (hk : ∀ a s', x s = .ok a s' → k' a s' = k a s') : (x' >>= k') s = (x >>= k) s := by
  change EStateM.bind x' k' s = EStateM.bind x k s
  rw [EStateM.bind, EStateM.bind, hx]
  cases hs : x s with
  | ok a s' => exact hk a s' hs
  | error stop s' => rfl

/-- A failure of a node that was never invoked is passed on. -/
private theorem retry_of_not_invoked {f₀ : Flow} {f : Failure} {s : State} (hinvoked : s.invoked.lookup f.node = none)
    (again : Node → Sim NodeOutcome) :
    (match f₀.node? f.node with
      | none => pure (passOn f)
      | some origin => do
        if ((← get).invoked.lookup origin.id).isNone then return passOn f else again origin : Sim NodeOutcome) s =
      .ok (passOn f) s := by
  cases horigin : f₀.node? f.node with
  | none => rfl
  | some origin =>
    have hid : origin.id = f.node := (Flow.mem_of_node?_eq_some horigin).2
    dsimp only
    rw [hid]
    refine (bind_eq_of_ok _ rfl).trans ?_
    rw [if_pos (by rw [hinvoked]; rfl)]
    rfl

private theorem retryOrigin_over (hn : n.SameFrame n') (hduration : durationOf (env.over g) n' = durationOf env n)
    (hid : g.id = env.flow.id) (c : ErrorHandlerConfig) (f : Failure) (maxRetries : Nat) {s : State}
    (horigin : ∀ id, s.invoked.lookup id ≠ none → RetriesAlikeAt env g id) :
    retryOrigin (env.over g) n' c f maxRetries s = retryOrigin env n c f maxRetries s := by
  unfold retryOrigin
  refine bind_eq_bind (by rw [hduration]) fun base s' hbase => ?_
  have hinvoked : s'.invoked = s.invoked := congrArg Ledger.invoked ((quiet_durationOf env n s).of_ok hbase).1
  by_cases hnever : s'.invoked.lookup f.node = none
  · exact (retry_of_not_invoked hnever _).trans (retry_of_not_invoked hnever _).symm
  · rw [Env.flow_over]
    rcases horigin f.node (hinvoked ▸ hnever) with ⟨hm, hm'⟩ | ⟨m, m', hm, hm', hframe, hagain⟩
    · rw [hm, hm']
    · rw [hm, hm']
      dsimp only
      simp only [retrying_over hn hframe hagain hid, hframe.id]

theorem handle_over (hn : n.SameFrame n') (hduration : durationOf (env.over g) n' = durationOf env n)
    (hsame : SameDefaults env.flow g) (c : ErrorHandlerConfig) (b : Birth) (input : Cell) (incoming : Signal) {s : State}
    (horigin : ∀ id, s.invoked.lookup id ≠ none → RetriesAlikeAt env g id) :
    handle (env.over g) n' c b input incoming s = handle env n c b input incoming s := by
  have hstrategy : strategyOf g.config c = strategyOf env.flow.config c := by
    unfold strategyOf
    rw [hsame.retries, hsame.errorHandling]
  unfold handle
  cases incoming.failure? with
  | none => rfl
  | some f =>
    dsimp only
    rw [Env.flow_over, hstrategy, settingCell_of_id_eq hn.id]
    split
    · rfl
    · split
      · exact retryOrigin_over hn hduration hsame.id c f _ horigin
      · rfl

/-- To look up a type changes nothing. -/
private theorem eq_of_typeOf {t : NodeType} {s s' : State} (h : typeOf env n s = .ok t s') : s' = s := by
  unfold typeOf at h
  cases hfind : env.engine.registry.find? n.type with
  | none =>
    rw [hfind] at h
    cases h
  | some t' =>
    rw [hfind] at h
    cases h
    rfl

/-- To look up what is to be done at a node changes nothing. -/
private theorem eq_of_semanticsOf {semantics : Semantics} {s s' : State}
    (h : semanticsOf env n s = .ok semantics s') : s' = s := by
  unfold semanticsOf at h
  obtain ⟨t, s₁, htype, hrest⟩ := exists_of_bind_eq_ok h
  obtain rfl := eq_of_typeOf htype
  cases hkind : t.kind? with
  | some k =>
    rw [hkind] at hrest
    cases hread : k.read n.data.config with
    | fits c =>
      simp only [hread] at hrest
      cases hrest
      rfl
    | refused ps =>
      simp only [hread] at hrest
      cases hrest
  | none =>
    rw [hkind] at hrest
    cases hbehaviour : env.engine.behaviours.lookup n.type with
    | some b =>
      simp only [hbehaviour] at hrest
      cases hrest
      rfl
    | none =>
      simp only [hbehaviour] at hrest
      cases hrest

/-- A node is carried out in the same way when the nodes that were invoked can be tried again alike. -/
theorem invoke_over (hn : n.Alike n') (hsame : SameDefaults env.flow g) (incoming : Signal) {s : State}
    (horigin : ∀ id, s.invoked.lookup id ≠ none → RetriesAlikeAt env g id) :
    invoke (env.over g) n' incoming s = invoke env n incoming s := by
  have hfinish (o : NodeOutcome) (s : State) : finishTiming (env.over g) n' o s = finishTiming env n o s := by
    rw [finishTiming_of_durationOf_eq (durationOf_over hn)]
  unfold invoke
  rw [hn.id]
  refine bind_eq_bind rfl fun input s₁ h₁ => bind_eq_bind (by rw [semanticsOf_over hn]) fun semantics s₂ h₂ => ?_
  have hinvoked : s₂.invoked = s.invoked := by
    rw [eq_of_semanticsOf h₂]
    exact congrArg Ledger.invoked ((quiet_read _ s).of_ok h₁).1
  cases semantics with
  | custom b => exact bind_eq_bind (congrFun (behave_of_sameFrame hn.toSameFrame input b) s₂) fun o s₃ _ => hfinish o s₃
  | builtin c =>
    cases c with
    | errorHandler c =>
      exact bind_eq_bind (handle_over hn.toSameFrame (durationOf_over hn) hsame c _ input incoming (hinvoked ▸ horigin))
        fun o s₃ _ => hfinish o s₃
    | _ => exact bind_eq_bind (congrFun (work_over hn hsame.id _ _ input) s₂) fun o s₃ _ => hfinish o s₃

/-- Two nodes of one frame that take the same time and do the same, whatever was tried again before. -/
structure Matches (env : Env) (g : Flow) (n n' : Node) : Prop extends n.SameFrame n' where
  duration : durationOf (env.over g) n' = durationOf env n
  again : reinvoke (env.over g) n' = reinvoke env n
  invoke : ∀ (incoming : Signal) (s : State), (∀ id, s.invoked.lookup id ≠ none → RetriesAlikeAt env g id) →
    Run.invoke (env.over g) n' incoming s = Run.invoke env n incoming s

theorem matches_of_alike (hn : n.Alike n') (hsame : SameDefaults env.flow g) : Matches env g n n' where
  toSameFrame := hn.toSameFrame
  duration := durationOf_over hn
  again := reinvoke_over hn hsame.id
  invoke := fun incoming _ => invoke_over hn hsame incoming

/-! ### What comes in and what goes out -/

/-- Two edges that leave a node through the same output. -/
structure LeavesAlike (n : Node) (d e : Edge) : Prop where
  id : e.id = d.id
  output : n.output? e.sourcePort? = n.output? d.sourcePort?

/-- Two edges that hand over the same at the same input of a node. -/
structure EntersAlike (n : Node) (d e : Edge) : Prop where
  id : e.id = d.id
  mapping : e.data.mapping = d.data.mapping
  input : n.input? e.targetPort? = n.input? d.targetPort?

private theorem setSignals_of_sameFrame (hn : n.SameFrame n') (o : NodeOutcome) (payload : Place) (failure? : Option Failure)
    {ds es : List Edge} (h : List.Forall₂ (LeavesAlike n) ds es) :
    setSignals n' o payload failure? es = setSignals n o payload failure? ds := by
  induction h with
  | nil => rfl
  | cons he _ ih => simp only [setSignals, hn.output?_eq, he.output, he.id, hn.id, ih]

private theorem skipAll_of_alike {ds es : List Edge} (h : List.Forall₂ (LeavesAlike n) ds es) :
    (es.forM fun e => setSignal e.id .inactive) = ds.forM fun e => setSignal e.id .inactive := by
  induction h with
  | nil => rfl
  | cons he _ ih =>
    unfold List.forM
    rw [he.id, ih]

section

variable (hn : n.SameFrame n') (hid : g.id = env.flow.id)
  (hleave : List.Forall₂ (LeavesAlike n) (env.flow.outgoing n.id) (g.outgoing n.id))

include hn hid hleave

private theorem skip_over : skip (env.over g) n' = skip env n := by
  unfold skip
  rw [record_over hid, hn.id, hn.type, Env.flow_over, skipAll_of_alike hleave]

private theorem conclude_over (o : NodeOutcome) (incoming : Signal) :
    conclude (env.over g) n' o incoming = conclude env n o incoming := by
  simp only [conclude, storeOutput, route, recordOutcome_over hn hid, hn.id, Env.flow_over,
    setSignals_of_sameFrame hn o _ _ hleave]

omit hn in
private theorem proceed_of_matches (hn : Matches env g n n') (input : Cell) (incoming : Signal) {s : State}
    (horigin : ∀ id, id = n.id ∨ s.invoked.lookup id ≠ none → RetriesAlikeAt env g id) :
    proceed (env.over g) n' input incoming s = proceed env n input incoming s := by
  unfold proceed
  rw [hn.id]
  refine bind_eq_bind rfl fun _ s₁ h₁ => bind_eq_bind rfl fun _ s₂ h₂ => ?_
  have hinvoked : s₂.invoked = (n.id, incoming) :: s.invoked := by
    cases h₁
    cases h₂
    rfl
  refine bind_eq_bind (hn.invoke incoming s₂ fun id hid => horigin id ?_) fun o s₃ _ => ?_
  · rw [hinvoked, List.lookup_cons] at hid
    split at hid
    · next heq => exact .inl (eq_of_beq heq)
    · exact .inr hid
  · rw [conclude_over hn.toSameFrame hid hleave]

end

/-- Two edges that carry the same, and would hand it over in the same way. -/
structure CarriesAlike (n : Node) (a b : Edge × Signal) : Prop where
  signal : b.2 = a.2
  enters : EntersAlike n a.1 b.1

private theorem handOver_of_sameFrame (hn : n.SameFrame n') {d e : Edge} (he : EntersAlike n d e) (payload : Place) :
    handOver n' e payload = handOver n d payload := by
  have hmap : e.mapInputs = d.mapInputs := by
    funext source
    simp only [Edge.mapInputs, Edge.site, he.mapping, he.id]
  simp only [handOver, hmap, hn.input?_eq, he.input, hn.id]

private theorem handOverAll_of_sameFrame (hn : n.SameFrame n') {as bs : List (Edge × Place)}
    (h : List.Forall₂ (fun a b => b.2 = a.2 ∧ EntersAlike n a.1 b.1) as bs) :
    handOverAll n' bs = handOverAll n as := by
  induction h with
  | nil => rfl
  | cons hab _ ih => simp only [handOverAll, hab.1, handOver_of_sameFrame hn hab.2, ih]

private theorem combine_of_id_eq (hn : n'.id = n.id) : combine n' = combine n := by
  funext cs
  unfold combine
  rw [hn]

private theorem inputOf_of_sameFrame (hn : n.SameFrame n') (t : NodeType) {as bs : List (Edge × Place)}
    (h : List.Forall₂ (fun a b => b.2 = a.2 ∧ EntersAlike n a.1 b.1) as bs) : inputOf n' t bs = inputOf n t as := by
  simp only [inputOf, handOverAll_of_sameFrame hn h, h.length_eq, hn.id, combine_of_id_eq hn.id]

private theorem rawInput_of_alike (hn : n'.id = n.id) {as bs : List (Edge × Place)}
    (h : List.Forall₂ (fun a b => b.2 = a.2 ∧ EntersAlike n a.1 b.1) as bs) : rawInput n' bs = rawInput n as := by
  unfold rawInput
  rw [combine_of_id_eq hn]
  refine congrArg (· >>= _) ?_
  induction h with
  | nil => rfl
  | @cons a b as bs hab _ ih =>
    obtain ⟨d, payload⟩ := a
    obtain ⟨e, payload'⟩ := b
    obtain ⟨rfl, -⟩ := hab
    rw [List.mapM_cons, List.mapM_cons, ih]

private theorem sources_of_alike {live live' : List (Edge × Signal)} (h : List.Forall₂ (CarriesAlike n) live live') :
    List.Forall₂ (fun a b => b.2 = a.2 ∧ EntersAlike n a.1 b.1)
      (live.filterMap fun (e, s) => s.payload?.map fun p => (e, p))
      (live'.filterMap fun (e, s) => s.payload?.map fun p => (e, p)) := by
  induction h with
  | nil => exact .nil
  | @cons a b as bs hab _ ih =>
    obtain ⟨d, signal⟩ := a
    obtain ⟨e, signal'⟩ := b
    obtain ⟨rfl, henters⟩ := hab
    cases hpayload : signal'.payload? with
    | none => simpa [hpayload] using ih
    | some p => simpa [hpayload] using ⟨henters, ih⟩

private theorem signals_of_alike {live live' : List (Edge × Signal)} (h : List.Forall₂ (CarriesAlike n) live live') :
    live'.map (·.2) = live.map (·.2) := by
  induction h with
  | nil => rfl
  | cons hab _ ih => rw [List.map_cons, List.map_cons, hab.signal, ih]

/-! ### The visit -/

/-- The visits of two nodes that do the same are the same when the edges of the nodes do the same and the nodes that were
invoked can be tried again alike. -/
theorem visit_of_matches (hn : Matches env g n n') (hid : g.id = env.flow.id) {s : State}
    (hleave : List.Forall₂ (LeavesAlike n) (env.flow.outgoing n.id) (g.outgoing n.id))
    (hlive : List.Forall₂ (CarriesAlike n) (liveEdges env.flow s.signals n) (liveEdges g s.signals n'))
    (horigin : ∀ id, id = n.id ∨ s.invoked.lookup id ≠ none → RetriesAlikeAt env g id) :
    visit (env.over g) n' s = visit env n s := by
  have hframe := hn.toSameFrame
  have hproceed (input : Cell) (incoming : Signal) {s₁ : State} (hsame' : s₁.invoked = s.invoked) :
      proceed (env.over g) n' input incoming s₁ = proceed env n input incoming s₁ :=
    proceed_of_matches hid hleave hn input incoming fun id hid => horigin id (hsame' ▸ hid)
  unfold visit
  refine bind_eq_bind (by rw [typeOf_over hframe]) fun t s₁ htype => ?_
  obtain rfl := eq_of_typeOf htype
  rw [hn.id]
  split
  · exact hproceed _ _ rfl
  · unfold visitInner
    refine bind_eq_bind rfl fun s' s₂ hget => ?_
    cases hget
    rw [Env.flow_over]
    generalize liveEdges env.flow s₁.signals n = live, liveEdges g s₁.signals n' = live' at hlive
    have hsources := sources_of_alike hlive
    have hsignals := signals_of_alike hlive
    cases hlive with
    | nil => exact congrFun (skip_over hframe hid hleave) s₁
    | cons hfirst hrest =>
      dsimp only
      rw [hsignals, hn.id]
      refine bind_eq_bind (by rw [inputOf_of_sameFrame hframe t hsources]) fun input s₂ hinput => ?_
      have hinvoked : s₂.invoked = s₁.invoked := congrArg Ledger.invoked ((quiet_inputOf n t _ s₁).of_ok hinput).1
      rcases input with (cause | m) | input
      · simp only [rawInput_of_alike hframe.id hsources, finishTiming_of_durationOf_eq hn.duration, conclude_over hframe hid hleave]
      · rfl
      · exact hproceed _ _ hinvoked

/-- The visits of two nodes that are alike are the same when the edges of the nodes do the same and the nodes that were
invoked are alike. -/
theorem visit_over (hn : n.Alike n') (hsame : SameDefaults env.flow g) {s : State}
    (hleave : List.Forall₂ (LeavesAlike n) (env.flow.outgoing n.id) (g.outgoing n.id))
    (hlive : List.Forall₂ (CarriesAlike n) (liveEdges env.flow s.signals n) (liveEdges g s.signals n'))
    (horigin : ∀ id, id = n.id ∨ s.invoked.lookup id ≠ none → AlikeAt env.flow g id) :
    visit (env.over g) n' s = visit env n s :=
  visit_of_matches (matches_of_alike hn hsame) hsame.id hleave hlive fun id hid => (horigin id hid).retries hsame.id

end

/-! ### The order -/

/-- Two agendas that have placed nodes that correspond, and are at the same point. -/
structure Agenda.Alike (rel : Node → Node → Prop) (a b : Agenda) : Prop where
  indegree : b.indegree = a.indegree
  ready : b.ready = a.ready
  placed : List.Forall₂ rel a.placed b.placed

private theorem getElem?_of_forall₂ {α : Type} {rel : α → α → Prop} {as bs : List α} (h : List.Forall₂ rel as bs)
    (i : Nat) : List.Forall₂ rel (as[i]?).toList (bs[i]?).toList := by
  induction h generalizing i with
  | nil => exact .nil
  | cons hab _ ih =>
    cases i with
    | zero => exact .cons hab .nil
    | succ i => exact ih i

section

variable {f g : Flow} {rel : Node → Node → Prop} (h : f.SameFrame g)

include h

private theorem release_of_alike {a b : Agenda} (hab : a.Alike rel b) (id : String) :
    (a.release f id).Alike rel (b.release g id) := by
  unfold Agenda.release
  rw [hab.indegree]
  split
  · exact hab
  · refine ⟨rfl, ?_, hab.placed⟩
    dsimp only
    rw [hab.ready, Agenda.entry, Agenda.entry, h.nodeIds_eq]

variable (hnodes : List.Forall₂ rel f.nodes g.nodes)

include hnodes in
private theorem step_of_alike {a b : Agenda} (hab : a.Alike rel b) : (a.step f).Alike rel (b.step g) := by
  have hreleases {a b : Agenda} (hab : a.Alike rel b) (ids : List String) :
      (ids.foldl (Agenda.release f) a).Alike rel (ids.foldl (Agenda.release g) b) := by
    induction ids generalizing a b with
    | nil => exact hab
    | cons id ids ih => exact ih (release_of_alike h hab id)
  unfold Agenda.step
  rw [hab.ready]
  split
  · exact hab
  · next first others _ =>
    rw [h.targets_eq]
    exact hreleases (a := { a with ready := others, placed := a.placed ++ (f.nodes[first.1]?).toList })
      (b := { b with ready := others, placed := b.placed ++ (g.nodes[first.1]?).toList })
      ⟨hab.indegree, rfl, List.rel_append hab.placed (getElem?_of_forall₂ hnodes first.1)⟩ _

include hnodes in
private theorem agendaRun_of_alike (steps : Nat) {a b : Agenda} (hab : a.Alike rel b) :
    (a.run f steps).Alike rel (b.run g steps) := by
  induction steps generalizing a b with
  | zero => exact hab
  | succ steps ih => exact ih (step_of_alike h hnodes hab)

private theorem agendaStart_of_alike (reached : List String) :
    (Agenda.start f reached).Alike rel (Agenda.start g reached) := by
  have hdegree (id : String) : Agenda.degreeIn g reached id = Agenda.degreeIn f reached id := by
    have hcount (f : Flow) : Agenda.degreeIn f reached id =
        ((f.incoming id).map (·.source)).countP fun source => reached.contains source := by
      rw [List.countP_map]
      rfl
    rw [hcount, hcount, h.sources_eq]
  have hentry : Agenda.entry g = Agenda.entry f := by
    funext id
    rw [Agenda.entry, Agenda.entry, h.nodeIds_eq]
  refine ⟨?_, ?_, .nil⟩
  · simp only [Agenda.start, hdegree]
  · simp only [Agenda.start, hdegree, hentry]

include hnodes in
/-- The orders of flows of one frame correspond when their nodes do. -/
theorem exists_executionOrder?_of_forall₂ {ingress ingress' : Node} (hingress : ingress'.id = ingress.id)
    {order : List Node} (horder : executionOrder? f ingress = some order) :
    ∃ order', executionOrder? g ingress' = some order' ∧ List.Forall₂ rel order order' := by
  unfold executionOrder? at horder ⊢
  rw [hingress, h.reachable_eq]
  have hplaced := (agendaRun_of_alike h hnodes (f.reachable ingress.id).length
    (agendaStart_of_alike h (f.reachable ingress.id))).placed
  dsimp only at horder ⊢
  split at horder
  · next hall =>
    cases horder
    rw [if_pos (hplaced.length_eq ▸ hall)]
    exact ⟨_, rfl, hplaced⟩
  · cases horder

end

/-! ### Whole runs -/

section

variable {env : Env} {g : Flow}

/-- The visits of nodes that correspond, one after another, are the same when each of them is, as long as a property
holds that the visits keep. -/
theorem visitAll_over {order : List Node} {rel : Node → Node → Prop} {p : List Node → State → Prop}
    (hkept : ∀ done n later s s₁, order = done ++ n :: later → p done s → visit env n s = .ok () s₁ →
      p (done ++ [n]) s₁)
    (hvisit : ∀ done n later n' s, order = done ++ n :: later → rel n n' → p done s →
      visit (env.over g) n' s = visit env n s)
    {later later' : List Node} (h : List.Forall₂ rel later later') {done : List Node}
    (horder : order = done ++ later) {s : State} (hp : p done s) :
    visitAll (env.over g) later' s = visitAll env later s := by
  induction h generalizing done s with
  | nil => rfl
  | @cons n n' later later' hn _ ih =>
    by_cases hcancelled : s.cancelled = true
    · rw [visitAll_of_cancelled hcancelled, visitAll_of_cancelled hcancelled]
    · rw [Bool.not_eq_true] at hcancelled
      rw [visitAll_of_running hcancelled, visitAll_of_running hcancelled]
      refine bind_eq_bind (hvisit done n later n' s horder hn hp) fun _ s₁ hs₁ => ?_
      exact ih (by rw [horder, List.append_assoc]; rfl) (hkept done n later s s₁ horder hp hs₁)

/-- Runs that take up orders of which the visits are the same are the same. -/
theorem execute_over {order order' : List Node} (hid : g.id = env.flow.id) (horder : ∀ s, orderOf env s = .ok order s)
    (horder' : ∀ s, orderOf (env.over g) s = .ok order' s) (openCircuits : List String)
    (hvisits : visitAll (env.over g) order' (begun env openCircuits) = visitAll env order (begun env openCircuits)) :
    execute (env.over g) openCircuits = execute env openCircuits := by
  have hbegun : begun (env.over g) openCircuits = begun env openCircuits := by
    unfold begun
    rw [Env.flow_over, hid]
    rfl
  have hsimulate : simulate (env.over g) (initialState (env.over g) openCircuits) =
      simulate env (initialState env openCircuits) := by
    rw [simulate_eq_of_orderOf horder, simulate_eq_of_orderOf horder', hbegun]
    exact bind_eq_bind hvisits fun _ _ _ => rfl
  unfold execute
  rw [hsimulate]
  simp only [traceOf, Env.flow_over, hid, Env.execution_over]
  rfl

private theorem leavesAlike_of_sameFrame {f g : Flow} (h : f.SameFrame g) {n : Node} (hnode : f.node? n.id = some n) :
    List.Forall₂ (LeavesAlike n) (f.outgoing n.id) (g.outgoing n.id) := by
  have hall := (List.forall₂_and_left _ _).2 ⟨fun e he => (Flow.mem_outgoing.1 he).2, h.outgoing n.id⟩
  refine hall.imp ?_
  rintro d e ⟨hsource, he⟩
  exact ⟨he.id, he.output n (hsource ▸ hnode)⟩

private theorem liveEdges_of_sameFrame {f g : Flow} (h : f.SameFrame g) {n n' : Node} (hn : n'.id = n.id)
    (hnode : f.node? n.id = some n) (signals : List (String × Signal)) :
    List.Forall₂ (CarriesAlike n) (liveEdges f signals n) (liveEdges g signals n') := by
  have hall := (List.forall₂_and_left _ _).2 ⟨fun e he => (Flow.mem_incoming.1 he).2, h.incoming n.id⟩
  unfold liveEdges
  rw [hn]
  refine filter_of_forall₂ ?_ fun a b hab => by rw [hab.signal]
  rw [List.forall₂_map_left_iff, List.forall₂_map_right_iff]
  refine hall.imp ?_
  rintro d e ⟨htarget, he⟩
  exact ⟨by rw [he.id], he.id, he.mapping, he.input n (htarget ▸ hnode)⟩

/-- The runs of valid flows whose nodes do the same are the same. -/
theorem execute_of_matches (hid : g.id = env.flow.id) (hnodes : List.Forall₂ (Matches env g) env.flow.nodes g.nodes)
    (hedges : List.Forall₂ (Edge.Alike env.flow) env.flow.edges g.edges) (valid : env.flow.Valid env.engine.registry)
    (valid' : g.Valid env.engine.registry) (openCircuits : List String) :
    execute (env.over g) openCircuits = execute env openCircuits := by
  have hframe : env.flow.SameFrame g := ⟨hnodes.imp fun _ _ hn => hn.toSameFrame, hedges⟩
  obtain ⟨ingress, order, hingress, horder, hstable⟩ := exists_order valid
  obtain ⟨ingress', hingress', -⟩ := valid'.exists_ingress
  -- The entry points are the first nodes of their kind, so they stand at the same place.
  have hentry : ingress'.id = ingress.id := by
    have hfirst := Validator.ingressNodes_of_forall₂ (r := env.engine.registry)
      (fun _ _ hn => Node.SameFrame.type hn) hframe.nodes
    rw [hingress, hingress'] at hfirst
    cases hfirst with
    | cons hfirst _ => exact hfirst.id
  obtain ⟨order', horder', hmatch⟩ := exists_executionOrder?_of_forall₂ hframe hnodes hentry horder
  refine execute_over hid (fun _ => orderOf_eq_ok valid hingress horder)
    (fun _ => orderOf_eq_ok valid' hingress' horder') openCircuits ?_
  refine visitAll_over (p := fun _ _ => True) (fun _ _ _ _ _ _ _ _ => trivial) (fun done n later n' s horder hn _ => ?_)
    hmatch (List.nil_append order).symm trivial
  have hnode : env.flow.node? n.id = some n := by
    refine valid.node?_eq_some ((hstable.mem_iff n).1 ?_).1
    rw [horder]
    exact List.mem_append_right _ List.mem_cons_self
  refine visit_of_matches hn hid (leavesAlike_of_sameFrame hframe hnode)
    (liveEdges_of_sameFrame hframe hn.id hnode s.signals) fun id _ => ?_
  rcases find?_of_forall₂ (p := (·.id == id)) (q := (·.id == id)) hnodes fun m n hn => by rw [hn.id] with
    hnone | ⟨m, m', hm, hm', hsame⟩
  · exact .inl hnone
  · exact .inr ⟨m, m', hm, hm', hsame.toSameFrame, hsame.again⟩

end

/-- An engine answers two flows in the same way when the checks find the same in both and their nodes do the same. -/
theorem run_eq_of_matches {engine : Engine} {f g : Flow} (hid : g.id = f.id)
    (hnodes : ∀ env : Env, env.engine = engine → env.flow = f → List.Forall₂ (Matches env g) f.nodes g.nodes)
    (hedges : List.Forall₂ (Edge.Alike f) f.edges g.edges)
    (hcheck : Validator.check engine.registry g = Validator.check engine.registry f) (r : Request) :
    engine.run g r = engine.run f r := by
  have hensure : Validator.ensureValid engine.registry g = Validator.ensureValid engine.registry f := by
    rw [Validator.ensureValid, Validator.ensureValid, hcheck]
  unfold Engine.run
  rw [hensure]
  cases hanswer : Validator.ensureValid engine.registry f with
  | error e => rfl
  | ok findings =>
    have valid : f.Valid engine.registry := Flow.valid_iff_ensureValid.2 ⟨findings, hanswer⟩
    have valid' : g.Valid engine.registry := Flow.valid_iff_ensureValid.2 ⟨findings, hensure.trans hanswer⟩
    exact congrArg Except.ok (@execute_of_matches (r.env engine f) g hid
      (hnodes _ rfl rfl) hedges valid valid' r.openCircuits)

/-- An engine answers flows that are alike in the same way, when the checks find the same in both. -/
theorem run_eq_of_alike {engine : Engine} {f g : Flow} (h : f.Alike g)
    (hcheck : Validator.check engine.registry g = Validator.check engine.registry f) (r : Request) :
    engine.run g r = engine.run f r := by
  refine run_eq_of_matches h.id (fun env _ hflow => ?_) h.edges hcheck r
  subst hflow
  exact h.nodes.imp fun _ _ hn => matches_of_alike hn ⟨h.id, h.retries, h.errorHandling⟩

end IntegrationFlow.Run
