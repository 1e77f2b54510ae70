import IntegrationFlow.Proofs.Run.Attend
import IntegrationFlow.Proofs.Run.Course

/-!
# Which branches a run takes

The outcome of a node selects some of its ports, and so some of its edges. When a node is visited, the edges to it that
come from reachable nodes were set, and those that were selected are live (`Charted`). So a run that is not cancelled
passes over exactly those nodes to which no path of selected edges leads (`routing_of_run`).
-/

namespace IntegrationFlow.Run

open Simulation Sim

/-! ### Outcomes -/

/-- A node leaves through a port: through one that it names, else through one for errors exactly when it has failed. -/
def NodeOutcome.Selects (o : NodeOutcome) (port : Port) : Prop :=
  match o.exits with
  | .fitting => port.type = errorType ↔ o.failure?.isSome = true
  | .only id => port.id = id
  | .within c => Expression.contains c (.atom .only (.ofString port.id)) = .ok true

/-- The status of the step of a node; a node without an outcome was passed over. -/
def statusOf : Option NodeOutcome → StepStatus
  | none => .skipped
  | some o => if o.failure?.isSome then .error else .success

theorem statusOf_eq_skipped_iff {found? : Option NodeOutcome} : statusOf found? = .skipped ↔ found? = none := by
  cases found? with
  | none => exact iff_of_true rfl rfl
  | some o =>
    refine iff_of_false ?_ (by simp)
    unfold statusOf
    dsimp only
    split
    · nofun
    · nofun

theorem exists_of_statusOf_eq_success {found? : Option NodeOutcome} (h : statusOf found? = .success) :
    ∃ o, found? = some o ∧ o.failure? = none := by
  cases found? with
  | none => cases h
  | some o =>
    refine ⟨o, rfl, ?_⟩
    cases hfailure : o.failure? with
    | none => rfl
    | some failure =>
      simp only [statusOf, hfailure] at h
      cases h

/-- The outcome of a node that is visited, unless it is passed over. -/
def outcomeOf (env : Env) (n : Node) (s : State) : Option NodeOutcome :=
  match attend env n s with
  | .ok found _ => found.map (·.1)
  | .error _ _ => none

/-- The outcomes of nodes that are visited one after another. -/
def outcomes (env : Env) : List Node → State → List (String × Option NodeOutcome)
  | [], _ => []
  | n :: later, s => (n.id, outcomeOf env n s) :: outcomes env later (endState (visit env n) s)

/-- The outcome of one of the nodes, by its id. -/
def outcome? (env : Env) (order : List Node) (s : State) (id : String) : Option NodeOutcome :=
  ((outcomes env order s).lookup id).join

/-- The source of an edge was not passed over, and it leaves through the port of the edge. -/
def Selected (f : Flow) (found : String → Option NodeOutcome) (e : Edge) : Prop :=
  ∃ n o port, f.node? e.source = some n ∧ found e.source = some o ∧ n.output? e.sourcePort? = some port ∧ o.Selects port

theorem selected_iff {f : Flow} {found : String → Option NodeOutcome} {e : Edge} {n : Node} {port : Port}
    (hsource : f.node? e.source = some n) (hport : n.output? e.sourcePort? = some port) :
    Selected f found e ↔ ∃ o, found e.source = some o ∧ o.Selects port := by
  constructor
  · rintro ⟨m, o, port', hm, ho, hport', hselects⟩
    cases hsource.symm.trans hm
    cases hport.symm.trans hport'
    exact ⟨o, ho, hselects⟩
  · rintro ⟨o, ho, hselects⟩
    exact ⟨n, o, port, hsource, ho, hport, hselects⟩

theorem Selected.found_ne_none {f : Flow} {found : String → Option NodeOutcome} {e : Edge} (h : Selected f found e) :
    found e.source ≠ none := by
  obtain ⟨_, o, _, -, ho, -, -⟩ := h
  rw [ho]
  exact Option.some_ne_none o

section

variable {env : Env} {n : Node} {done later : List Node} {s s₁ : State}

theorem map_fst_outcomes (env : Env) (order : List Node) (s : State) :
    (outcomes env order s).map Prod.fst = order.map (·.id) := by
  induction order generalizing s with
  | nil => rfl
  | cons n later ih => exact congrArg (n.id :: ·) (ih _)

theorem outcomes_append (h : visitAll env done s = .ok true s₁) :
    outcomes env (done ++ later) s = outcomes env done s ++ outcomes env later s₁ := by
  induction done generalizing s with
  | nil =>
    cases h
    rfl
  | cons n done ih =>
    rcases visitAll_cons h with ⟨-, hfinished, -⟩ | ⟨-, s₂, hvisit, h⟩
    · cases hfinished
    · have hend : endState (visit env n) s = s₂ := by
        unfold endState
        rw [hvisit]
      rw [List.cons_append, outcomes, outcomes, hend, ih h]
      rfl

private theorem lookup_outcomes_eq_none {order : List Node} {id : String} (h : id ∉ order.map (·.id)) :
    (outcomes env order s).lookup id = none := by
  rw [List.lookup_eq_none_iff]
  intro x hx
  have hmem : x.1 ∈ order.map (·.id) := map_fst_outcomes env order s ▸ List.mem_map_of_mem hx
  simpa using fun heq : id = x.1 => h (heq ▸ hmem)

/-- A node that is not visited has no outcome. -/
theorem outcome?_eq_none {order : List Node} {id : String} (h : id ∉ order.map (·.id)) :
    outcome? env order s id = none := by
  rw [outcome?, lookup_outcomes_eq_none h]
  rfl

/-- The outcome of a node is the one that it has when its turn comes. -/
theorem outcome?_eq (h : visitAll env done s = .ok true s₁) (hfresh : n.id ∉ done.map (·.id)) :
    outcome? env (done ++ n :: later) s n.id = outcomeOf env n s₁ := by
  rw [outcome?, outcomes_append h, List.lookup_append, lookup_outcomes_eq_none hfresh, Option.none_or, outcomes,
    List.lookup_cons_self]
  rfl

end

/-! ### What an edge carries -/

/-- An edge is live when the outcome of its source selects its port. -/
theorem isLive_emission_iff (o : NodeOutcome) (payload : Place) (failure? : Option Failure) (port : Port) :
    (emission o payload failure? port).isLive = true ↔ o.Selects port := by
  have hlive : (emission o payload failure? port).isLive = true ↔ isSelected o port = .ok true := by
    unfold emission signalAt
    split
    · next hselected =>
      rw [hselected]
      split
      · exact iff_of_true rfl rfl
      · exact iff_of_true rfl rfl
    · next hnot => exact iff_of_false (by decide) hnot
  rw [hlive]
  unfold isSelected NodeOutcome.Selects
  cases o.exits with
  | fitting =>
    rw [Except.ok.injEq]
    split
    · next hfailed => simp [hfailed]
    · next hfailed => simp [hfailed]
  | only id => simp
  | within c => exact Iff.rfl

/-- Completing a visit records the node, and sets its edges: those that its outcome selects become live. -/
theorem meets_complete {env : Env} (valid : env.Valid) {n : Node} (hn : n ∈ env.flow.nodes)
    (found : Option (NodeOutcome × Signal)) (s : State) :
    Meets (complete env n found) s fun _ s' => ∃ r : Record, r.node = n.id ∧ r.status = statusOf (found.map (·.1)) ∧
      s'.records = s.records ++ [r] ∧
        ∀ e ∈ env.flow.outgoing n.id, ∃ port signal, n.output? e.sourcePort? = some port ∧
          s'.signals.lookup e.id = some signal ∧
            (signal.isLive = true ↔ ∃ o, found.map (·.1) = some o ∧ o.Selects port) := by
  cases found with
  | none =>
    refine (meets_record env _).bind fun _ s₁ h₁ => (meets_setInactive _ s₁).mono ?_
    rintro _ s₂ ⟨signals, -, hdead, h₂⟩
    have hsignals : s₂.signals = signals := congrArg Ledger.signals h₂
    refine ⟨{ node := n.id, type := n.type, status := .skipped }, rfl, rfl, ?_, fun e he => ?_⟩
    · exact congrArg Ledger.records (h₂.trans (congrArg (fun l : Ledger => { l with signals }) h₁))
    · obtain ⟨port, hport⟩ := valid.exists_output hn he
      exact ⟨port, .inactive, hport, by rw [hsignals]; exact hdead e he, iff_of_false (by decide) (by simp)⟩
  | some x =>
    obtain ⟨o, incoming⟩ := x
    refine (meets_conclude valid hn o incoming s).mono ?_
    rintro _ s₁ ⟨r, signals, emitted, hr, hrouted, h₁⟩
    have hsignals : s₁.signals = signals := congrArg Ledger.signals h₁
    refine ⟨r, hr.node, hr.status, congrArg Ledger.records h₁, fun e he => ?_⟩
    obtain ⟨port, hport, hsignal⟩ := hrouted.own e he
    refine ⟨port, _, hport, by rw [hsignals]; exact hsignal, ?_⟩
    rw [isLive_emission_iff]
    simp

/-! ### Attending to a node -/

/-- A node that succeeds has chosen one of the two outputs of a condition. -/
def NodeOutcome.IsChoice (o : NodeOutcome) : Prop :=
  o.failure? = none → ∃ t : Bool, o.exits = .only (if t then "true" else "false")

section

variable {env : Env} (valid : env.Valid) {n : Node} (hn : n ∈ env.flow.nodes)

theorem NodeOutcome.isChoice_failed (n : Node) (cause : FailureCause) : (NodeOutcome.failed n.id cause).IsChoice := by
  intro h
  cases h

theorem quiet_finishTiming_choice (env : Env) (n : Node) {o : NodeOutcome} (h : o.IsChoice) :
    Quiet (finishTiming env n o) NodeOutcome.IsChoice := by
  refine (quiet_finishTiming env n o).mono ?_
  rintro _ ⟨d, rfl⟩
  exact h

include valid hn

/-- A condition chooses one of its two outputs, or fails. -/
theorem quiet_invoke_condition (hcondition : n.type = Kind.condition.name) (incoming : Signal) :
    Quiet (invoke env n incoming) NodeOutcome.IsChoice := by
  unfold invoke
  refine (quiet_read _).bind fun input _ => (valid.quiet_semanticsOf hn).bind ?_
  rintro _ ⟨c, rfl, hkind, -⟩
  have hc : c.kind = Kind.condition := Kind.name_injective (hkind.symm.trans hcondition)
  cases c with
  | condition c =>
    have hchoice (b : Birth) : Quiet (settle n.id (choose c b input)) NodeOutcome.IsChoice :=
      quiet_settle (fun o ho _ => by
        obtain ⟨t, rfl⟩ := exists_of_choose ho
        exact ⟨t, rfl⟩) (NodeOutcome.isChoice_failed n)
    exact (hchoice _).bind fun o ho => quiet_finishTiming_choice env n ho
  | _ => cases hc

theorem meets_engage (input : Cell) (incoming : Signal) (s : State) :
    Meets (engage env n input incoming) s fun o _ => n.type = Kind.condition.name → o.IsChoice := by
  unfold engage
  refine (quiet_store _ _ s).bind fun _ s₁ _ => meets_modify_bind ?_
  by_cases hcondition : n.type = Kind.condition.name
  · exact (quiet_invoke_condition valid hn hcondition incoming _).mono fun _ _ h _ => h.2
  · exact (serves_invoke valid hn incoming _).mono fun _ _ _ h => absurd h hcondition

theorem meets_engageFrom (t : NodeType) (live : List (Edge × Signal)) (s : State) :
    Meets (engageFrom env n t live) s fun o _ => n.type = Kind.condition.name → o.IsChoice := by
  unfold engageFrom
  refine (quiet_inputOf n t _ s).bind ?_
  rintro input s₁ -
  split
  · exact meets_engage valid hn _ _ s₁
  · exact meets_crashed
  · next cause =>
    refine (quiet_rawInput n _ s₁).bind fun raw s₂ _ => (quiet_store _ _ s₂).bind fun _ s₃ _ => ?_
    exact (quiet_finishTiming_choice env n (NodeOutcome.isChoice_failed n cause) s₃).mono fun _ _ h _ => h.2

/-- A node is passed over when it is no ingress and no edge to it is live. -/
theorem meets_attend (s : State) : Meets (attend env n) s fun found _ =>
    (found = none ↔ env.engine.registry.isIngress n = false ∧ liveEdges env.flow s.signals n = []) ∧
      (n.type = Kind.condition.name → ∀ x, found = some x → x.1.IsChoice) := by
  obtain ⟨k, -, hfind⟩ := valid.exists_kind hn
  have hingress : env.engine.registry.isIngress n = (k.nodeType.category == .input) := by
    unfold Registry.isIngress
    rw [hfind]
    rfl
  unfold attend
  refine meets_bind_of_ok (typeOf_eq_ok hfind s) ?_
  split
  · next hinput =>
    refine (meets_engage valid hn _ _ s).bind fun o s₁ ho => meets_pure ⟨?_, ?_⟩
    · rw [hingress, hinput]
      simp
    · rintro hcondition _ ⟨⟩
      exact ho hcondition
  · next hinner =>
    rw [Bool.not_eq_true] at hinner
    rw [hingress, hinner]
    unfold attendInner
    refine meets_get_bind ?_
    dsimp only
    split
    · next hempty =>
      refine meets_pure ⟨?_, ?_⟩
      · simpa using hempty
      · rintro - _ ⟨⟩
    · next hlive =>
      refine (meets_engageFrom valid hn _ _ s).bind fun o s₁ ho => meets_pure ⟨?_, ?_⟩
      · simpa using hlive
      · rintro hcondition _ ⟨⟩
        exact ho hcondition

end

/-! ### From visit to visit -/

/-- What is known of a run when some of its nodes were visited. -/
structure Charted (env : Env) (start : String) (found : String → Option NodeOutcome) (done : List Node) (l : Ledger) :
    Prop where
  status : ∀ n ∈ done, (l.records.find? (·.node == n.id)).map (·.status) = some (statusOf (found n.id))
  set : ∀ e ∈ env.flow.edges, e.source ∈ done.map (·.id) →
    ∃ signal, l.signals.lookup e.id = some signal ∧ (signal.isLive = true ↔ Selected env.flow found e)
  unset : ∀ e ∈ env.flow.edges, e.source ∉ done.map (·.id) → l.signals.lookup e.id = none
  passed : ∀ n ∈ done, found n.id = none ↔ n.id ≠ start ∧ ∀ e ∈ env.flow.incoming n.id, ¬ Selected env.flow found e
  choice : ∀ n ∈ done, n.type = Kind.condition.name → ∀ o, found n.id = some o → o.IsChoice

theorem charted_start (env : Env) (start : String) (found : String → Option NodeOutcome) :
    Charted env start found [] ⟨.running, [], [], [], []⟩ where
  status := by simp
  set := by simp
  unset := fun _ _ _ => rfl
  passed := by simp
  choice := by simp

section

variable {env : Env} (valid : env.Valid) {ingress : Node}
  (hingress : Validator.ingressNodes env.engine.registry env.flow = [ingress])
  {found : String → Option NodeOutcome} {n : Node} {done later : List Node} {s s₁ : State} {start : String}

/-- The ingress is told by its id. -/
theorem isIngress_eq_false_iff (valid : env.Valid)
    (hingress : Validator.ingressNodes env.engine.registry env.flow = [ingress]) (hn : n ∈ env.flow.nodes) :
    env.engine.registry.isIngress n = false ↔ n.id ≠ ingress.id := by
  have hmem : ingress ∈ Validator.ingressNodes env.engine.registry env.flow := by
    rw [hingress]
    exact List.mem_singleton_self _
  obtain ⟨hdeclared, hentry⟩ := List.mem_filter.1 hmem
  rw [← Bool.not_eq_true, not_iff_not]
  constructor
  · intro h
    have hboth : n ∈ Validator.ingressNodes env.engine.registry env.flow := List.mem_filter.2 ⟨hn, h⟩
    rw [hingress, List.mem_singleton] at hboth
    rw [hboth]
  · intro hid
    rw [valid.flow.eq_of_id_eq hn hdeclared hid]
    exact hentry

/-- The first record of a node that was not visited before is its own in the turn of its visit. -/
theorem Turned.find?_own {turns : List (Turn Record)} {turn : Turn Record} {before : Ledger}
    (h : Turned env done before turns) (hnode : turn.own.node = n.id) (hfresh : n.id ∉ done.map (·.id))
    (hagain : ∀ r ∈ turn.again, r.node ∈ done.map (·.id)) :
    (before.records ++ turn.all).find? (·.node == n.id) = some turn.own := by
  have hbefore : before.records.find? (·.node == n.id) = none :=
    List.find?_eq_none.2 fun r hr heq => hfresh (beq_iff_eq.1 heq ▸ h.visited r hr)
  have hattempts : turn.again.find? (·.node == n.id) = none :=
    List.find?_eq_none.2 fun r hr heq => hfresh (beq_iff_eq.1 heq ▸ hagain r hr)
  have hown : [turn.own].find? (·.node == n.id) = some turn.own := List.find?_cons_of_pos (beq_iff_eq.2 hnode)
  rw [List.find?_append, hbefore, Turn.all, List.find?_append, hattempts, hown, Option.none_or, Option.none_or]

/-- The source of a selected edge to a node comes before the node. -/
theorem source_mem_of_selected {f : Flow} (hstable : IsStableOrder f start (done ++ n :: later))
    (hnone : ∀ id, id ∉ (done ++ n :: later).map (·.id) → found id = none) {e : Edge} (he : e ∈ f.incoming n.id)
    (hselected : Selected f found e) : e.source ∈ done.map (·.id) := by
  obtain ⟨hmem, htarget⟩ := Flow.mem_incoming.1 he
  have hplaced : e.source ∈ (done ++ n :: later).map (·.id) :=
    by_contra fun hout => hselected.found_ne_none (hnone _ hout)
  obtain ⟨m, hm, hid⟩ := List.mem_map.1 hplaced
  exact hstable.isAvailable.ready e hmem htarget (hid ▸ ((hstable.mem_iff m).1 hm).2)

/-- No edge to a node is live exactly when none was selected, for the edges from reachable nodes were set. -/
theorem Charted.liveEdges_eq_nil_iff (h : Charted env start found done s.ledger)
    (hstable : IsStableOrder env.flow start (done ++ n :: later))
    (hnone : ∀ id, id ∉ (done ++ n :: later).map (·.id) → found id = none) :
    liveEdges env.flow s.signals n = [] ↔ ∀ e ∈ env.flow.incoming n.id, ¬ Selected env.flow found e := by
  have hlive (e : Edge) (he : e ∈ env.flow.incoming n.id) :
      ((s.signals.lookup e.id).getD .inactive).isLive = true ↔ Selected env.flow found e := by
    obtain ⟨hmem, -⟩ := Flow.mem_incoming.1 he
    by_cases hsource : e.source ∈ done.map (·.id)
    · obtain ⟨signal, hsignal, hiff⟩ := h.set e hmem hsource
      rw [show s.signals.lookup e.id = some signal from hsignal]
      exact hiff
    · rw [show s.signals.lookup e.id = none from h.unset e hmem hsource]
      exact iff_of_false (by decide) fun hselected => hsource (source_mem_of_selected hstable hnone he hselected)
  unfold liveEdges
  rw [List.filter_eq_nil_iff]
  simp only [List.mem_map, forall_exists_index, and_imp, forall_apply_eq_imp_iff₂]
  exact forall₂_congr fun e he => not_congr (hlive e he)

include valid hingress

/-- A visit keeps what is known, and adds the node. -/
theorem Charted.visit (h : Charted env ingress.id found done s.ledger)
    (hstable : IsStableOrder env.flow ingress.id (done ++ n :: later)) {turns : List (Turn Record)}
    (hturned : Turned env done s.ledger turns) (hfound : found n.id = outcomeOf env n s)
    (hnone : ∀ id, id ∉ (done ++ n :: later).map (·.id) → found id = none) (hvisit : visit env n s = .ok () s₁) :
    Charted env ingress.id found (done ++ [n]) s₁.ledger := by
  have hn := hstable.isAvailable
  have hvisited : Visited env n s.ledger s₁.ledger := (meets_visit valid hn.declared s).of_ok hvisit
  obtain ⟨turn, htook, hrecords, hagain, -⟩ := hturned.exists_took valid hstable.declared_concat hn.fresh hvisited
  rw [visit_eq] at hvisit
  obtain ⟨x, s₂, hattend, hcomplete⟩ := exists_of_bind_eq_ok hvisit
  obtain ⟨hpassed, hchoice⟩ := (meets_attend valid hn.declared s).of_ok hattend
  obtain ⟨r, -, hstatus, hlast, hset⟩ := (meets_complete valid hn.declared x s₂).of_ok hcomplete
  have hx : found n.id = x.map (·.1) := by
    rw [hfound, outcomeOf, hattend]
  -- The record of the node is the last one that the visit has added.
  obtain rfl : turn.own = r := by
    have hsame : s.records ++ turn.again ++ [turn.own] = s₂.records ++ [r] := by
      rw [List.append_assoc]
      exact hrecords.symm.trans hlast
    exact List.singleton_inj.1 (List.append_inj' hsame rfl).2
  have hother {e : Edge} (he : e ∈ env.flow.edges) (hne : e.source ≠ n.id) :
      s₁.ledger.signals.lookup e.id = s.ledger.signals.lookup e.id :=
    hvisited.lookup_eq valid he hne
  refine ⟨fun m hm => ?_, fun e he hsource => ?_, fun e he hsource => ?_, fun m hm => ?_, fun m hm htype o ho => ?_⟩
  · rw [hrecords, List.find?_append]
    rcases List.mem_append.1 hm with hm | hm
    · obtain ⟨own, hown, hstatus⟩ := Option.map_eq_some_iff.1 (h.status m hm)
      rw [hown, Option.some_or, Option.map_some, hstatus]
    · cases List.mem_singleton.1 hm
      rw [← List.find?_append, hturned.find?_own htook.node hn.fresh hagain, Option.map_some, hstatus, hx]
  · by_cases hown : e.source = n.id
    · obtain ⟨port, signal, hport, hsignal, hlive⟩ := hset e (Flow.mem_outgoing.2 ⟨he, hown⟩)
      have hnode : env.flow.node? e.source = some n := hown ▸ valid.flow.node?_eq_some hn.declared
      refine ⟨signal, hsignal, ?_⟩
      rw [selected_iff hnode hport, hown, hx]
      exact hlive
    · rw [hother he hown]
      refine h.set e he ?_
      rw [List.map_append, List.mem_append] at hsource
      exact hsource.resolve_right fun hmem => hown (List.mem_singleton.1 hmem)
  · rw [List.map_append, List.mem_append, not_or] at hsource
    rw [hother he fun heq => hsource.2 (List.mem_singleton.2 heq)]
    exact h.unset e he hsource.1
  · rcases List.mem_append.1 hm with hm | hm
    · exact h.passed m hm
    · cases List.mem_singleton.1 hm
      rw [hx, Option.map_eq_none_iff, hpassed, isIngress_eq_false_iff valid hingress hn.declared,
        h.liveEdges_eq_nil_iff hstable hnone]
  · rcases List.mem_append.1 hm with hm | hm
    · exact h.choice m hm htype o ho
    · cases List.mem_singleton.1 hm
      obtain ⟨y, hy, rfl⟩ := Option.map_eq_some_iff.1 (hx.symm.trans ho)
      exact hchoice htype y hy

/-- What is known when the first nodes of the order were visited. -/
theorem charted_of_visitAll (hstable : IsStableOrder env.flow ingress.id (done ++ later))
    (hstart : s.ledger = ⟨.running, [], [], [], []⟩) (h : visitAll env done s = .ok true s₁) :
    Charted env ingress.id (outcome? env (done ++ later) s) done s₁.ledger := by
  induction done using List.reverseRecOn generalizing later s₁ with
  | nil =>
    cases h
    rw [hstart]
    exact charted_start env _ _
  | append_singleton done n ih =>
    obtain ⟨s₂, hdone, -, hvisit⟩ := exists_of_visitAll_concat h
    rw [← List.append_cons] at hstable ⊢
    obtain ⟨-, turns, hturned⟩ := exists_turned valid hstable hstart hdone
    exact (ih hstable hdone).visit valid hingress hstable hturned (outcome?_eq hdone hstable.isAvailable.fresh)
      (fun id hid => outcome?_eq_none hid) hvisit

end

/-! ### Whole runs -/

/-- The status of the first step of a node; only later steps are those of attempts on it. -/
def Trace.statusOf? (t : Trace) (node : String) : Option StepStatus :=
  (t.steps.find? (·.node == node)).map (·.status)

/-- How the branches that a run has taken show in its trace. -/
structure Routing (f : Flow) (start : String) (found : String → Option NodeOutcome) (t : Trace) : Prop where
  status : ∀ n ∈ f.nodes, f.Reaches start n.id → t.statusOf? n.id = some (statusOf (found n.id))
  /-- Passed over are exactly the nodes to which no path of selected edges leads. -/
  skipped : ∀ n ∈ f.nodes, f.Reaches start n.id →
    (t.statusOf? n.id = some .skipped ↔ ¬ f.ReachesBy (Selected f found) start n.id)
  /-- Behind a condition, the nodes are passed over that can be reached only through the port that was not chosen, and
  some node behind the chosen one is not. -/
  chosen : ∀ n ∈ f.nodes, n.type = Kind.condition.name → t.statusOf? n.id = some .success →
    ∃ port, (port = "true" ∨ port = "false") ∧ (found n.id).map (·.exits) = some (.only port) ∧
      (∀ m ∈ f.nodes, f.Reaches start m.id →
        ¬ f.ReachesBy (fun e => e.source = n.id → (n.output? e.sourcePort?).map (·.id) = some port) start m.id →
          t.statusOf? m.id = some .skipped) ∧
        ∃ e ∈ f.outgoing n.id, (n.output? e.sourcePort?).map (·.id) = some port ∧
          ∃ status, t.statusOf? e.target = some status ∧ status ≠ .skipped

section

variable {env : Env} {found : String → Option NodeOutcome} {order : List Node} {l : Ledger} {start : String}

/-- A node that is reached by selected edges is not passed over. -/
theorem Charted.found_ne_none (h : Charted env start found order l) {n : Node} (hn : n ∈ order)
    (hreached : env.flow.ReachesBy (Selected env.flow found) start n.id) : found n.id ≠ none := by
  intro hnone
  obtain ⟨hother, hdead⟩ := (h.passed n hn).1 hnone
  obtain ⟨e, he, hselected⟩ := hreached.last_edge hother
  exact hdead e he hselected

/-- A node that is not passed over is reached by selected edges. -/
theorem Charted.reachesBy (h : Charted env start found order l) (hstable : IsStableOrder env.flow start order)
    (hnone : ∀ id, id ∉ order.map (·.id) → found id = none) {n : Node} (hn : n ∈ order) (hfound : found n.id ≠ none) :
    env.flow.ReachesBy (Selected env.flow found) start n.id := by
  -- By induction on the nodes that come earlier in the order, for a selected edge comes from one of them.
  have hall : ∀ done later, order = done ++ later → ∀ m ∈ done, found m.id ≠ none →
      env.flow.ReachesBy (Selected env.flow found) start m.id := by
    intro done
    induction done using List.reverseRecOn with
    | nil => simp
    | append_singleton done k ih =>
      rintro later horder m hm hfound
      rw [← List.append_cons] at horder
      rcases List.mem_append.1 hm with hm | hm
      · exact ih _ horder m hm hfound
      · cases List.mem_singleton.1 hm
        have hk : k ∈ order := by
          rw [horder]
          simp
        by_cases hstart : k.id = start
        · rw [hstart]
          exact Relation.ReflTransGen.refl
        · have hlive : ∃ e ∈ env.flow.incoming k.id, Selected env.flow found e := by
            by_contra hdead
            exact hfound ((h.passed k hk).2 ⟨hstart, fun e he hselected => hdead ⟨e, he, hselected⟩⟩)
          obtain ⟨e, he, hselected⟩ := hlive
          obtain ⟨hmem, htarget⟩ := Flow.mem_incoming.1 he
          obtain ⟨y, hy, hsource⟩ :=
            List.mem_map.1 (source_mem_of_selected (horder ▸ hstable) (horder ▸ hnone) he hselected)
          have hbefore := ih _ horder y hy (hsource ▸ hselected.found_ne_none)
          rw [hsource] at hbefore
          exact htarget ▸ hbefore.edge hmem hselected
  exact hall order [] (List.append_nil _).symm n hn hfound

end

theorem statusOf?_traceOf (env : Env) (s : State) (id : String) :
    (traceOf env s none).statusOf? id = (s.ledger.records.find? (·.node == id)).map (·.status) := by
  unfold Trace.statusOf? traceOf
  rw [List.find?_map, Option.map_map]
  rfl

/-- A condition that has succeeded has left through one of its two ports. -/
theorem Charted.exists_chosen {env : Env} {start : String} {found : String → Option NodeOutcome} {order : List Node}
    {s : State} (h : Charted env start found order s.ledger) {n : Node} (hn : n ∈ order)
    (hcondition : n.type = Kind.condition.name)
    (hsuccess : (traceOf env s none).statusOf? n.id = some .success) :
    ∃ o port, found n.id = some o ∧ (port = "true" ∨ port = "false") ∧ o.exits = .only port := by
  rw [statusOf?_traceOf, h.status n hn, Option.some.injEq] at hsuccess
  obtain ⟨o, ho, hfailure⟩ := exists_of_statusOf_eq_success hsuccess
  obtain ⟨b, hb⟩ := h.choice n hn hcondition o ho hfailure
  refine ⟨o, _, ho, ?_, hb⟩
  cases b with
  | true => exact .inl rfl
  | false => exact .inr rfl

section

variable {env : Env} (valid : env.Valid) {start : String} {order : List Node}
  (hstable : IsStableOrder env.flow start order) {found : String → Option NodeOutcome}
  (hnone : ∀ id, id ∉ order.map (·.id) → found id = none) {s : State}
  (h : Charted env start found order s.ledger)

include hstable hnone h

/-- At the end of a run, the nodes are passed over to which no path of selected edges leads. -/
theorem Charted.statusOf?_eq_skipped_iff {n : Node} (hn : n ∈ order) :
    (traceOf env s none).statusOf? n.id = some .skipped ↔
      ¬ env.flow.ReachesBy (Selected env.flow found) start n.id := by
  rw [statusOf?_traceOf, h.status n hn, Option.some.injEq, statusOf_eq_skipped_iff]
  constructor
  · exact fun hskipped hreached => h.found_ne_none hn hreached hskipped
  · exact fun hdead => by_contra fun hfound => hdead (h.reachesBy hstable hnone hn hfound)

include valid

/-- Some node behind the port through which a condition has left is not passed over. -/
theorem Charted.exists_next {n : Node} (hn : n ∈ order) (hcondition : n.type = Kind.condition.name) {o : NodeOutcome}
    (ho : found n.id = some o) {port : String} (hport : port = "true" ∨ port = "false") (hexits : o.exits = .only port) :
    ∃ e ∈ env.flow.outgoing n.id, (n.output? e.sourcePort?).map (·.id) = some port ∧
      ∃ status, (traceOf env s none).statusOf? e.target = some status ∧ status ≠ .skipped := by
  obtain ⟨hdeclared, hreached⟩ := (hstable.mem_iff n).1 hn
  obtain ⟨k, hname, hfind⟩ := valid.exists_kind hdeclared
  obtain rfl : k = Kind.condition := Kind.name_injective (hname.symm.trans hcondition)
  have hwired : Validator.isWired env.flow n port = true := by
    refine valid.flow.isWired hdeclared hfind (by decide) ?_
    rcases hport with rfl | rfl
    · decide
    · decide
  obtain ⟨e, he, hany⟩ := List.any_eq_true.1 hwired
  obtain ⟨p, hp, hid⟩ := (Option.any_eq_true _ _).1 hany
  have hid : p.id = port := beq_iff_eq.1 hid
  obtain ⟨hmem, hsource⟩ := Flow.mem_outgoing.1 he
  have hnode : env.flow.node? e.source = some n := hsource ▸ valid.flow.node?_eq_some hdeclared
  have hselects : o.Selects p := by
    unfold NodeOutcome.Selects
    rw [hexits]
    exact hid
  have hselected : Selected env.flow found e := (selected_iff hnode hp).2 ⟨o, hsource ▸ ho, hselects⟩
  obtain ⟨target, htarget, htid⟩ := hstable.exists_target valid.flow hmem (hsource ▸ hreached)
  have hlive : env.flow.ReachesBy (Selected env.flow found) start target.id :=
    htid ▸ Flow.ReachesBy.edge (hsource ▸ h.reachesBy hstable hnone hn (ho ▸ Option.some_ne_none o)) hmem hselected
  refine ⟨e, he, ?_, statusOf (found target.id), ?_, ?_⟩
  · rw [hp, Option.map_some, hid]
  · rw [statusOf?_traceOf, ← htid]
    exact h.status target htarget
  · exact fun hskipped => h.found_ne_none htarget hlive (statusOf_eq_skipped_iff.1 hskipped)

/-- The trace of a run shows which branches it has taken. -/
theorem Charted.routing (hvisited : ∀ r ∈ s.records, r.node ∈ order.map (·.id)) :
    Routing env.flow start found (traceOf env s none) := by
  have hmem {n : Node} (hn : n ∈ env.flow.nodes) (hreached : env.flow.Reaches start n.id) : n ∈ order :=
    (hstable.mem_iff n).2 ⟨hn, hreached⟩
  refine ⟨fun n hn hreached => ?_, fun n hn hreached => h.statusOf?_eq_skipped_iff hstable hnone (hmem hn hreached),
    fun n hn hcondition hsuccess => ?_⟩
  · rw [statusOf?_traceOf]
    exact h.status n (hmem hn hreached)
  · have hplaced : n ∈ order := by
      rw [statusOf?_traceOf] at hsuccess
      obtain ⟨r, hr, -⟩ := Option.map_eq_some_iff.1 hsuccess
      obtain ⟨m, hm, hid⟩ := List.mem_map.1 (hvisited r (List.mem_of_find?_eq_some hr))
      have hsame : m.id = n.id := hid.trans (beq_iff_eq.1 (List.find?_some (p := fun x : Record => x.node == n.id) hr))
      rwa [valid.flow.eq_of_id_eq ((hstable.mem_iff m).1 hm).1 hn hsame] at hm
    obtain ⟨o, port, ho, hport, hexits⟩ := h.exists_chosen hplaced hcondition hsuccess
    refine ⟨port, hport, ?_, fun m hm hreached hcut => ?_,
      h.exists_next valid hstable hnone hplaced hcondition ho hport hexits⟩
    · rw [ho, Option.map_some, hexits]
    · rw [h.statusOf?_eq_skipped_iff hstable hnone (hmem hm hreached)]
      refine fun hlive => hcut (hlive.mono ?_)
      rintro e - ⟨x, o', p, hx, ho', hp, hselects⟩ hsource
      -- The edge leaves the condition, so it was selected by its outcome.
      rw [hsource, valid.flow.node?_eq_some hn] at hx
      cases hx
      rw [hsource, ho] at ho'
      cases ho'
      unfold NodeOutcome.Selects at hselects
      rw [hexits] at hselects
      rw [hp, Option.map_some, hselects]

end

/-- A run that is not cancelled passes over exactly those nodes to which no path of edges leads that the outcomes of
their sources have selected, and before a node is visited, all edges to it from reachable nodes were set. -/
theorem routing_of_run {engine : Engine} {f : Flow} {r : Request} {report : Report} {t : Trace}
    (hbuiltin : engine.registry = .builtin) (hrun : engine.run f r = .ok report) (htrace : report.trace = .ok t)
    (hfinished : t.status ≠ .cancelled) :
    ∃ ingress order found, Validator.ingressNodes engine.registry f = [ingress] ∧
      executionOrder? f ingress = some order ∧
        found = outcome? (r.env engine f) order (begun (r.env engine f) r.openCircuits) ∧
          Routing f ingress.id found t ∧
            ∀ done n later, order = done ++ n :: later →
              ∃ s, visitAll (r.env engine f) done (begun (r.env engine f) r.openCircuits) = .ok true s ∧
                ∀ e ∈ f.incoming n.id, f.Reaches ingress.id e.source →
                  ∃ signal, s.signals.lookup e.id = some signal ∧ (signal.isLive = true ↔ Selected f found e) := by
  obtain ⟨hvalid, rfl⟩ := Engine.run_eq_ok_iff.1 hrun
  have valid : (r.env engine f).Valid := ⟨hbuiltin, hvalid⟩
  obtain ⟨ingress, order, hingress, horder, hstable⟩ := exists_order valid.flow
  obtain ⟨s, hs, rfl, -⟩ := exists_end_of_trace valid htrace
  rw [simulate_eq valid hingress horder] at hs
  obtain ⟨s₁, status, hvisits, rfl⟩ := exists_visited hs hfinished
  have hstart := (begun_eq (r.env engine f) r.openCircuits).1
  refine ⟨ingress, order, _, hingress, horder, rfl, ?_, ?_⟩
  · have hwhole : IsStableOrder (r.env engine f).flow ingress.id (order ++ []) := by
      rwa [List.append_nil]
    have hcharted := charted_of_visitAll valid hingress hwhole hstart hvisits
    obtain ⟨-, turns, hturned⟩ := exists_turned valid hwhole hstart hvisits
    rw [List.append_nil] at hcharted
    have hcharted : Charted _ _ _ order ({ s₁ with status } : State).ledger :=
      ⟨hcharted.status, hcharted.set, hcharted.unset, hcharted.passed, hcharted.choice⟩
    exact hcharted.routing valid hstable (fun id hid => outcome?_eq_none hid) hturned.visited
  · rintro done n later rfl
    obtain ⟨s₂, hdone, -⟩ := exists_of_visitAll_append hvisits
    refine ⟨s₂, hdone, fun e he hreached => ?_⟩
    obtain ⟨hmem, htarget⟩ := Flow.mem_incoming.1 he
    exact (charted_of_visitAll valid hingress hstable hstart hdone).set e hmem
      (hstable.isAvailable.ready e hmem htarget hreached)

/-- A condition with a node behind each of its ports. Both lead to `join`, and so does a node that is not reachable. -/
def crossroads : Flow where
  id := "crossroads"
  name := "Crossroads"
  nodes := [Kind.ingress.node "start" [], Kind.condition.node "check" [("condition", .text "input.amount > 1000")],
    Kind.serviceBox.node "large" [], Kind.serviceBox.node "small" [], Kind.serviceBox.node "join" [],
    Kind.serviceBox.node "stray" []]
  edges := [{ id := "1", source := "start", target := "check" },
    { id := "2", source := "check", target := "large", sourcePort? := some "true" },
    { id := "3", source := "check", target := "small", sourcePort? := some "false" },
    { id := "4", source := "large", target := "join" }, { id := "5", source := "small", target := "join" },
    { id := "6", source := "stray", target := "join" }]
  createdAt := default
  updatedAt := default

/-- A run of the flow in which the condition holds. -/
def largeRun : Request where
  input := .object [(.text "amount", .int 1500)]
  execution := "run"

/-- The run passes over `small`, to which no selected edge leads, but not over `join`. -/
theorem routing_of_largeRun : ∃ report t found, Engine.run {} crossroads largeRun = .ok report ∧
    report.trace = .ok t ∧ t.status ≠ .cancelled ∧ Routing crossroads "start" found t ∧
      ¬ crossroads.ReachesBy (Selected crossroads found) "start" "small" ∧
        crossroads.ReachesBy (Selected crossroads found) "start" "join" := by
  obtain ⟨report, s, hrun, htrace, hfinished, hsmall, hjoin⟩ := @exists_trace_of_isOk {} crossroads largeRun
    (fun s => s.status ≠ .cancelled ∧
      (s.ledger.records.find? (·.node == "small")).map (·.status) = some .skipped ∧
        (s.ledger.records.find? (·.node == "join")).map (·.status) = some .success)
    (by decide) (by decide +kernel) (by decide +kernel)
  obtain ⟨ingress, order, found, hingress, -, -, hrouting, -⟩ := routing_of_run rfl hrun htrace hfinished
  obtain rfl : ingress = Kind.ingress.node "start" [] := (List.singleton_inj.1 hingress).symm
  rw [← statusOf?_traceOf (largeRun.env {} crossroads)] at hsmall hjoin
  have hpassed := hrouting.skipped (Kind.serviceBox.node "small" []) (List.mem_of_getElem? (i := 3) rfl)
    (Flow.mem_reachable_iff.1 (by decide))
  have hmet := hrouting.skipped (Kind.serviceBox.node "join" []) (List.mem_of_getElem? (i := 4) rfl)
    (Flow.mem_reachable_iff.1 (by decide))
  refine ⟨report, _, found, hrun, htrace, hfinished, hrouting, hpassed.1 hsmall, by_contra fun hdead => ?_⟩
  cases hjoin.symm.trans (hmet.2 hdead)

end IntegrationFlow.Run
