import IntegrationFlow.Proofs.Run.Attempts
import IntegrationFlow.Proofs.Run.Cancelled

/-!
# Visits in lockstep

The visit of a node looks at what its edges carry, at the values that these hand over and at the number of attempts that
it has made, and at nothing else that earlier visits have left, as long as it asks no breaker and tries no other node
again. So from two states that agree in that much, a visit adds the same to both (`lockstep_visit`).
-/

namespace IntegrationFlow.Run

open Simulation Sim

/-! ### Related states -/

/-- From two related states, what a computation gives from the first it gives from the second, and the states stay
related. -/
def Lockstep {α : Type} (r : State → State → Prop) (x : Sim α) : Prop :=
  ∀ t t', r t t' → ∀ a u, x t = .ok a u → ∃ u', x t' = .ok a u' ∧ r u u'

section

variable {α β : Type} {r : State → State → Prop} {x : Sim α} {k : α → Sim β}

theorem lockstep_pure (a : α) : Lockstep r (pure a) := by
  intro t t' h b u hx
  cases hx
  exact ⟨t', rfl, h⟩

theorem lockstep_throw (stop : Stop) : Lockstep r (throw stop : Sim α) := by
  intro t t' h a u hx
  cases hx

theorem Lockstep.bind (h : Lockstep r x) (hk : ∀ a, Lockstep r (k a)) : Lockstep r (x >>= k) := by
  intro t t' hr b v hx
  obtain ⟨a, u, hfirst, hlast⟩ := exists_of_bind_eq_ok hx
  obtain ⟨u', hfirst', hr'⟩ := h t t' hr a u hfirst
  obtain ⟨v', hlast', hr''⟩ := hk a u u' hr' b v hlast
  exact ⟨v', (bind_eq_of_ok _ hfirst').trans hlast', hr''⟩

/-- A computation that gives the same from every state and leaves it as it is. -/
theorem Lockstep.of_const {a : α} (hx : ∀ t, x t = .ok a t) (hk : Lockstep r (k a)) : Lockstep r (x >>= k) := by
  intro t t' hr b v hlast
  rw [bind_eq_of_ok _ (hx t)] at hlast
  rw [bind_eq_of_ok _ (hx t')]
  exact hk t t' hr b v hlast

theorem lockstep_modify {f : State → State} (h : ∀ t t', r t t' → r (f t) (f t')) : Lockstep r (modify f) := by
  intro t t' hr a u hx
  cases hx
  exact ⟨f t', rfl, h t t' hr⟩

/-- A computation that looks at the state, but only at what related states have in common. -/
theorem Lockstep.get_bind {k : State → Sim α} (h : ∀ t t', r t t' → k t' = k t ∧ Lockstep r (k t)) :
    Lockstep r (get >>= k) := by
  intro t t' hr a u hx
  obtain ⟨hsame, hk⟩ := h t t' hr
  have hget : (get >>= k) t' = k t t' := congrFun hsame t'
  rw [hget]
  exact hk t t' hr a u hx

end

/-! ### What a visit sees -/

/-- What a part of a run has added to it. -/
@[ext]
structure Share where
  records : List Record
  lost : List Failure
  time : Nat

namespace Share

instance : Add Share where
  add a b := ⟨a.records ++ b.records, a.lost ++ b.lost, a.time + b.time⟩

instance : Zero Share where
  zero := ⟨[], [], 0⟩

@[simp] theorem records_add (a b : Share) : (a + b).records = a.records ++ b.records := rfl

@[simp] theorem lost_add (a b : Share) : (a + b).lost = a.lost ++ b.lost := rfl

@[simp] theorem time_add (a b : Share) : (a + b).time = a.time + b.time := rfl

@[simp] theorem records_zero : (0 : Share).records = [] := rfl

@[simp] theorem lost_zero : (0 : Share).lost = [] := rfl

@[simp] theorem time_zero : (0 : Share).time = 0 := rfl

theorem add_assoc (a b c : Share) : a + b + c = a + (b + c) := by
  ext1 <;> simp [List.append_assoc, Nat.add_assoc]

@[simp] theorem add_zero (a : Share) : a + 0 = a := by
  ext1 <;> simp

@[simp] theorem zero_add (a : Share) : 0 + a = a := by
  ext1 <;> simp

end Share

/-- All that was added to a run. -/
def State.tally (s : State) : Share :=
  ⟨s.records, s.unrecovered, s.clock.now⟩

/-- Two runs have come from two states to two others. They have added the same, and a node cannot tell them apart: the
edges at the node carry the same, the places that are seen have the same values, and so many attempts were made. -/
structure Abreast (env : Env) (n : Node) (seen : Place → Prop) (s s' t t' : State) : Prop where
  running : t.cancelled = false
  running' : t'.cancelled = false
  signals : ∀ e ∈ env.flow.edges, e.source = n.id ∨ e.target = n.id →
    t'.signals.lookup e.id = t.signals.lookup e.id
  payloads : ∀ e ∈ env.flow.edges, e.target = n.id → ∀ p, (t.signals.lookup e.id).bind Signal.payload? = some p → seen p
  values : ∀ p, seen p → t'.documents.read p = t.documents.read p
  attempts : t'.attemptsOf n.id = t.attemptsOf n.id
  added : ∃ c, t.tally = s.tally + c ∧ t'.tally = s'.tally + c

section

variable {env : Env} {n : Node} {seen : Place → Prop} {s s' : State}

/-! ### Single steps -/

theorem lockstep_moment (hcalm : ∀ moments, env.cancels moments = false) (m : Moment) :
    Lockstep (Abreast env n seen s s') (moment env m) :=
  lockstep_modify fun t t' h => { h with
    running := by simp [h.running, hcalm]
    running' := by simp [h.running', hcalm] }

theorem lockstep_publish (hcalm : ∀ moments, env.cancels moments = false) (e : Event) :
    Lockstep (Abreast env n seen s s') (publish env e) := by
  unfold publish
  split
  · exact lockstep_moment hcalm _
  · exact lockstep_pure _

/-- What is added to both states has been added. -/
theorem exists_added {t t' u u' : State} {d : Share} (h : ∃ c, t.tally = s.tally + c ∧ t'.tally = s'.tally + c)
    (hu : u.tally = t.tally + d) (hu' : u'.tally = t'.tally + d) :
    ∃ c, u.tally = s.tally + c ∧ u'.tally = s'.tally + c := by
  obtain ⟨c, hc, hc'⟩ := h
  exact ⟨c + d, by rw [hu, hc, Share.add_assoc], by rw [hu', hc', Share.add_assoc]⟩

theorem lockstep_advance (ms : Int) : Lockstep (Abreast env n seen s s') (advance ms) := by
  have htally (t : State) : ({ t with clock := t.clock.advance ms } : State).tally = t.tally + ⟨[], [], ms.toNat⟩ := by
    ext1 <;> simp [State.tally, Clock.advance]
  exact lockstep_modify fun t t' h => { h with added := exists_added h.added (htally t) (htally t') }

theorem lockstep_suspend (hcalm : ∀ moments, env.cancels moments = false) (ms : Int) :
    Lockstep (Abreast env n seen s s') (suspend env ms) :=
  (lockstep_advance ms).bind fun _ => lockstep_moment hcalm _

theorem lockstep_ofMishap {α : Type} (r : Except Expression.Mishap α) :
    Lockstep (Abreast env n seen s s') (ofMishap r) := by
  cases r with
  | ok a => exact lockstep_pure a
  | error m => exact lockstep_throw _

theorem lockstep_typeOf (m : Node) : Lockstep (Abreast env n seen s s') (typeOf env m) := by
  unfold typeOf
  split
  · exact lockstep_pure _
  · exact lockstep_throw _

theorem lockstep_durationOf (m : Node) : Lockstep (Abreast env n seen s s') (durationOf env m) :=
  lockstep_ofMishap _

theorem lockstep_read {p : Place} (hp : seen p) : Lockstep (Abreast env n seen s s') (read p) :=
  Lockstep.get_bind fun _ _ h => ⟨by rw [h.values p hp], lockstep_pure _⟩

theorem lockstep_store (p : Place) (c : Cell) : Lockstep (Abreast env n seen s s') (store p c) := by
  refine lockstep_modify fun t t' h => { h with values := fun q hq => ?_ }
  by_cases hsame : q = p
  · rw [hsame]
    exact (Documents.read_store_self _ _ _).trans (Documents.read_store_self _ _ _).symm
  · rw [Documents.read_store_of_ne _ hsame, Documents.read_store_of_ne _ hsame]
    exact h.values q hq

/-- An edge is set whose value is seen. -/
theorem lockstep_setSignal (edge : String) {signal : Signal} (hseen : ∀ p, signal.payload? = some p → seen p) :
    Lockstep (Abreast env n seen s s') (setSignal edge signal) := by
  refine lockstep_modify fun t t' h => { h with signals := fun e he hat => ?_, payloads := fun e he hat p hp => ?_ }
  · dsimp only
    rw [List.lookup_cons, List.lookup_cons]
    split
    · rfl
    · exact h.signals e he hat
  · dsimp only at hp
    rw [List.lookup_cons] at hp
    split at hp
    · exact hseen p hp
    · exact h.payloads e he hat p hp

theorem lockstep_nextAttempt : Lockstep (Abreast env n seen s s') (nextAttempt n.id) := by
  refine Lockstep.get_bind fun t t' h => ⟨?_, ?_⟩
  · have hsame : (t'.attempts.lookup n.id).getD 0 = (t.attempts.lookup n.id).getD 0 := h.attempts
    simp only [hsame]
  · refine (lockstep_modify fun u u' hu => { hu with attempts := ?_ }).bind fun _ => lockstep_pure _
    simp [State.attemptsOf]

/-- A record is added whose values are seen. -/
theorem lockstep_record (hcalm : ∀ moments, env.cancels moments = false) {r : Record}
    (hseen : ∀ p, r.input? = some p ∨ r.output? = some p → seen p) :
    Lockstep (Abreast env n seen s s') (record env r) := by
  have htally (t : State) : ({ t with records := t.records ++ [r] } : State).tally = t.tally + ⟨[r], [], 0⟩ := by
    ext1 <;> simp [State.tally]
  unfold record
  refine (lockstep_modify fun t t' h => { h with added := exists_added h.added (htally t) (htally t') }).bind
    fun _ => ?_
  split
  · refine Lockstep.get_bind fun t t' h => ?_
    have hstep : r.toStep t'.documents = r.toStep t.documents := Record.toStep_congr fun p hp => h.values p (hseen p hp)
    rw [hstep]
    refine ⟨rfl, ?_⟩
    split
    · exact lockstep_publish hcalm _
    · exact lockstep_throw _
  · exact lockstep_pure _

/-! ### Calls -/

namespace OutboundCall

variable {c : OutboundCall} (hbreaker : c.config.circuitBreaker = false)

include hbreaker

/-- A call without a breaker has none to be told of a failure. -/
theorem reportFailure_of_no_breaker : c.reportFailure env = pure () := by
  have hclosed : c.isOpen = pure false := by
    unfold isOpen
    simp only [hbreaker, Bool.false_and]
    rfl
  unfold reportFailure updateBreaker
  rw [hclosed]
  simp [hbreaker]

variable (hcalm : ∀ moments, env.cancels moments = false)

include hcalm

theorem lockstep_attempt (hc : c.node = n) : Lockstep (Abreast env n seen s s') (c.attempt env) := by
  unfold attempt
  rw [hc]
  refine lockstep_nextAttempt.bind fun number => (lockstep_durationOf _).bind fun latency => ?_
  dsimp only
  rw [reportFailure_of_no_breaker hbreaker]
  split
  · exact (lockstep_suspend hcalm _).bind fun _ => (lockstep_pure _).bind fun _ => lockstep_pure _
  · refine (lockstep_suspend hcalm _).bind fun _ => ?_
    split
    · exact (lockstep_pure _).bind fun _ => lockstep_pure _
    · unfold updateBreaker
      rw [if_neg (by simp [hbreaker])]
      exact (lockstep_pure _).bind fun _ => lockstep_pure _

theorem lockstep_attempts (hc : c.node = n) (remaining number : Nat) (elapsed : Int) (last? : Option FailureCause) :
    Lockstep (Abreast env n seen s s') (c.attempts env remaining number elapsed last?) := by
  induction remaining generalizing number elapsed last? with
  | zero => exact lockstep_pure _
  | succ remaining ih =>
    unfold attempts
    refine Lockstep.bind ?_ fun delay => ?_
    · unfold beforeAttempt
      split
      · exact lockstep_pure _
      · exact (lockstep_suspend hcalm _).bind fun _ => (lockstep_publish hcalm _).bind fun _ => lockstep_pure _
    · rw [allowed_of_no_breaker hbreaker]
      refine (lockstep_pure true).bind fun allowed => ?_
      split
      · refine (lockstep_attempt hbreaker hcalm hc).bind fun x => ?_
        dsimp only
        split
        · exact lockstep_pure _
        · exact ih _ _ _
      · exact lockstep_pure _

end OutboundCall

/-! ### Carrying out a node -/

theorem lockstep_settle (node : String) (r : Outcome NodeOutcome) :
    Lockstep (Abreast env n seen s s') (settle node r) := by
  unfold settle
  split
  · exact lockstep_pure _
  · exact lockstep_pure _
  · exact lockstep_throw _

/-- A node that asks no breaker. -/
theorem lockstep_work (hcalm : ∀ moments, env.cancels moments = false) {config : Config}
    (hcalls : ∀ c, callOf? n config = some c → c.config.circuitBreaker = false) (b : Birth) (input : Cell) :
    Lockstep (Abreast env n seen s s') (work env n config b input) := by
  cases config with
  | transform c => exact lockstep_settle _ _
  | condition c => exact lockstep_settle _ _
  | connector c =>
    exact (OutboundCall.lockstep_attempts (hcalls _ rfl) hcalm rfl _ _ _ _).bind fun _ => lockstep_pure _
  | serviceCall c =>
    exact (OutboundCall.lockstep_attempts (hcalls _ rfl) hcalm rfl _ _ _ _).bind fun _ => lockstep_pure _
  | database c =>
    refine (lockstep_durationOf n).bind fun _ => (lockstep_suspend hcalm _).bind fun _ => ?_
    split
    · exact lockstep_pure _
    · exact lockstep_pure _
  | ingress _ | serviceBox _ | errorHandler _ => exact lockstep_pure _

theorem lockstep_finishTiming (o : NodeOutcome) : Lockstep (Abreast env n seen s s') (finishTiming env n o) := by
  unfold finishTiming
  split
  · exact lockstep_pure _
  · exact (lockstep_durationOf n).bind fun _ => (lockstep_advance _).bind fun _ => lockstep_pure _

/-- An error handler that does not try nodes again. -/
theorem lockstep_handle {c : ErrorHandlerConfig} (hhandler : (strategyOf env.flow.config c).1 ≠ Strategy.retry.name)
    (b : Birth) (input : Cell) (incoming : Signal) :
    Lockstep (Abreast env n seen s s') (handle env n c b input incoming) := by
  unfold handle
  split
  · exact lockstep_pure _
  · dsimp only
    split
    · exact lockstep_pure _
    · rw [if_neg (by simpa using hhandler)]
      exact lockstep_pure _

/-! ### What comes in -/

/-- An edge hands over a value that is seen, without a write. -/
theorem lockstep_handOver (m : Node) {e : Edge} (he : e.SparesSource) {payload : Place} (hseen : seen payload) :
    Lockstep (Abreast env n seen s s') (handOver m e payload) := by
  unfold handOver
  refine (lockstep_read hseen).bind fun source => ?_
  dsimp only
  rw [he source]
  refine (lockstep_modify fun t t' h => { h with }).bind fun _ => ?_
  split
  · exact lockstep_pure _
  · split
    · split
      · exact lockstep_pure _
      · exact lockstep_pure _
    · exact lockstep_pure _

theorem lockstep_handOverAll (m : Node) {live : List (Edge × Place)}
    (hlive : ∀ x ∈ live, x.1.SparesSource ∧ seen x.2) : Lockstep (Abreast env n seen s s') (handOverAll m live) := by
  induction live with
  | nil => exact lockstep_pure _
  | cons x live ih =>
    obtain ⟨⟨hspares, hseen⟩, hlater⟩ := List.forall_mem_cons.1 hlive
    unfold handOverAll
    refine (lockstep_handOver m hspares hseen).bind fun first => ?_
    split
    · exact lockstep_pure _
    · refine (ih hlater).bind fun others => ?_
      split
      · exact lockstep_pure _
      · exact lockstep_pure _

theorem lockstep_inputOf (m : Node) (type : NodeType) {live : List (Edge × Place)}
    (hlive : ∀ x ∈ live, x.1.SparesSource ∧ seen x.2) : Lockstep (Abreast env n seen s s') (inputOf m type live) := by
  unfold inputOf
  split
  · exact lockstep_pure _
  · refine (lockstep_handOverAll m hlive).bind fun handed => ?_
    split
    · exact lockstep_pure _
    · exact lockstep_pure _

theorem lockstep_rawInput (m : Node) {live : List (Edge × Place)} (hlive : ∀ x ∈ live, seen x.2) :
    Lockstep (Abreast env n seen s s') (rawInput m live) := by
  refine Lockstep.bind ?_ fun _ => lockstep_pure _
  induction live with
  | nil => exact lockstep_pure _
  | cons x live ih =>
    obtain ⟨hseen, hlater⟩ := List.forall_mem_cons.1 hlive
    rw [List.mapM_cons]
    refine Lockstep.bind ((lockstep_read hseen).bind fun _ => lockstep_pure _) fun _ => ?_
    exact (ih hlater).bind fun _ => lockstep_pure _

/-! ### What goes out -/

variable (hown : ∀ p : Place, p.owner = n.id → seen p)

include hown

theorem lockstep_recordOutcome (hcalm : ∀ moments, env.cancels moments = false) (o : NodeOutcome) :
    Lockstep (Abreast env n seen s s') (recordOutcome env n o (.output n.id)) := by
  refine lockstep_record hcalm fun p hp => hown p ?_
  rcases hp with hp | hp
  · cases hp
    rfl
  · dsimp only at hp
    split at hp
    · cases hp
    · cases hp
      rfl

theorem lockstep_setSignals (o : NodeOutcome) (failure? : Option Failure) (es : List Edge) :
    Lockstep (Abreast env n seen s s') (setSignals n o (.output n.id) failure? es) := by
  induction es with
  | nil => exact lockstep_pure _
  | cons e es ih =>
    unfold setSignals
    split
    · exact lockstep_throw _
    · next port _ =>
      refine (lockstep_ofMishap _).bind fun selected => (lockstep_setSignal _ fun p hp => hown p ?_).bind fun _ =>
        ih.bind fun _ => lockstep_pure _
      split at hp
      · unfold signalAt at hp
        split at hp
        · cases hp
          rfl
        · cases hp
          rfl
      · cases hp

theorem lockstep_route (o : NodeOutcome) (incoming : Signal) :
    Lockstep (Abreast env n seen s s') (route env n o incoming) := by
  unfold route
  refine (lockstep_setSignals hown o _ _).bind fun emitted => ?_
  split
  · next f _ =>
    split
    · exact lockstep_pure _
    · have htally (t : State) :
          ({ t with unrecovered := t.unrecovered ++ [f] } : State).tally = t.tally + ⟨[], [f], 0⟩ := by
        ext1 <;> simp [State.tally]
      exact lockstep_modify fun t t' h => { h with added := exists_added h.added (htally t) (htally t') }
  · exact lockstep_pure _

theorem lockstep_complete (hcalm : ∀ moments, env.cancels moments = false) (found : Option (NodeOutcome × Signal)) :
    Lockstep (Abreast env n seen s s') (complete env n found) := by
  cases found with
  | some x => exact (lockstep_store _ _).bind fun _ =>
      (lockstep_recordOutcome hown hcalm x.1).bind fun _ => lockstep_route hown x.1 x.2
  | none =>
    refine (lockstep_record hcalm (by simp)).bind fun _ => ?_
    generalize env.flow.outgoing n.id = es
    induction es with
    | nil => exact lockstep_pure _
    | cons e es ih =>
      unfold List.forM
      exact (lockstep_setSignal _ (by simp [Signal.payload?])).bind fun _ => ih

end

/-! ### The visit -/

/-- What is handed over to a node is what an edge to it carries. -/
theorem of_mem_sourcesOf {f : Flow} {signals : List (String × Signal)} {n : Node} {x : Edge × Place}
    (hx : x ∈ sourcesOf (liveEdges f signals n)) :
    x.1 ∈ f.incoming n.id ∧ (signals.lookup x.1.id).bind Signal.payload? = some x.2 := by
  obtain ⟨y, hy, hsome⟩ := List.mem_filterMap.1 hx
  obtain ⟨p, hp, rfl⟩ := Option.map_eq_some_iff.1 hsome
  obtain ⟨e, he, rfl⟩ := List.mem_map.1 (List.mem_filter.1 hy).1
  refine ⟨he, ?_⟩
  dsimp only at hp ⊢
  cases hlookup : signals.lookup e.id with
  | none =>
    rw [hlookup] at hp
    cases hp
  | some signal =>
    rw [hlookup] at hp
    exact hp

/-- The nodes of a flow have nothing in common but what its edges carry: no call asks a breaker, no error handler tries
other nodes again, and no mapping shares something with the output from which it takes its fields. -/
structure Insulated (f : Flow) : Prop where
  calls : ∀ n ∈ f.nodes, ∀ c, MakesCall n c → c.config.circuitBreaker = false
  handlers : ∀ n ∈ f.nodes, ∀ limit, ¬ TriesAgain f n limit
  mappings : ∀ e ∈ f.edges, ∀ m ∈ e.data.mapping, m.kind ≠ .transform

theorem Insulated.sparesSources {f : Flow} (h : Insulated f) : f.SparesSources :=
  fun e he => Edge.sparesSource_of_no_transform (h.mappings e he)

section

variable {env : Env} (valid : env.Valid) (hinsulated : Insulated env.flow) (hcalm : ∀ moments, env.cancels moments = false)
  {n : Node} (hn : n ∈ env.flow.nodes) {seen : Place → Prop} (hown : ∀ p : Place, p.owner = n.id → seen p)
  {s s' : State}

include valid hinsulated hcalm hn hown

theorem lockstep_invoke (incoming : Signal) : Lockstep (Abreast env n seen s s') (invoke env n incoming) := by
  obtain ⟨config, htype, hread, hok⟩ := valid.exists_semanticsOf hn
  have hcalls : ∀ c, callOf? n config = some c → c.config.circuitBreaker = false := fun c hc =>
    hinsulated.calls n hn c ⟨config, htype, hread, hc⟩
  unfold invoke
  refine (lockstep_read (hown _ rfl)).bind fun input => Lockstep.of_const hok ?_
  cases config with
  | errorHandler c =>
    have hhandler : (strategyOf env.flow.config c).1 ≠ Strategy.retry.name := fun hretry =>
      hinsulated.handlers n hn (strategyOf env.flow.config c).2 ⟨c, htype, hread, Prod.ext hretry rfl⟩
    exact (lockstep_handle hhandler _ input incoming).bind fun o => lockstep_finishTiming o
  | ingress _ | transform _ | connector _ | serviceCall _ | condition _ | database _ | serviceBox _ =>
    exact (lockstep_work hcalm hcalls _ input).bind fun o => lockstep_finishTiming o

theorem lockstep_engage (input : Cell) (incoming : Signal) :
    Lockstep (Abreast env n seen s s') (engage env n input incoming) :=
  (lockstep_store _ _).bind fun _ => (lockstep_modify fun _ _ h => { h with }).bind fun _ =>
    lockstep_invoke valid hinsulated hcalm hn hown incoming

theorem lockstep_attend : Lockstep (Abreast env n seen s s') (attend env n) := by
  unfold attend
  refine (lockstep_typeOf n).bind fun type => ?_
  split
  · exact (lockstep_engage valid hinsulated hcalm hn hown _ _).bind fun _ => lockstep_pure _
  · unfold attendInner
    refine Lockstep.get_bind fun t t' h => ?_
    -- Both runs find the same on the edges that lead to the node.
    have hlive : liveEdges env.flow t'.signals n = liveEdges env.flow t.signals n := by
      unfold liveEdges
      congr 1
      refine List.map_congr_left fun e he => ?_
      obtain ⟨hmem, htarget⟩ := Flow.mem_incoming.1 he
      rw [h.signals e hmem (.inr htarget)]
    rw [hlive]
    refine ⟨rfl, ?_⟩
    dsimp only
    have hsources : ∀ x ∈ sourcesOf (liveEdges env.flow t.signals n), x.1.SparesSource ∧ seen x.2 := by
      intro x hx
      obtain ⟨he, hpayload⟩ := of_mem_sourcesOf hx
      obtain ⟨hmem, htarget⟩ := Flow.mem_incoming.1 he
      exact ⟨hinsulated.sparesSources _ hmem, h.payloads _ hmem htarget _ hpayload⟩
    split
    · exact lockstep_pure _
    · refine Lockstep.bind ?_ fun _ => lockstep_pure _
      unfold engageFrom
      refine (lockstep_inputOf n type hsources).bind fun input => ?_
      split
      · exact lockstep_engage valid hinsulated hcalm hn hown _ _
      · exact lockstep_throw _
      · exact (lockstep_rawInput n fun x hx => (hsources x hx).2).bind fun _ => (lockstep_store _ _).bind fun _ =>
          lockstep_finishTiming _

/-- From two states that a node cannot tell apart, its visit adds the same to both. -/
theorem lockstep_visit : Lockstep (Abreast env n seen s s') (visit env n) := by
  rw [visit_eq]
  exact (lockstep_attend valid hinsulated hcalm hn hown).bind fun found => lockstep_complete hown hcalm found

end

end IntegrationFlow.Run
