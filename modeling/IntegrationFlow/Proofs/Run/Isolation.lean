import IntegrationFlow.Proofs.Run.Protection

/-!
# Targets and their circuits

A connector and a service call name a target, and the name of the circuit is put together from both parts of it. Two
targets have one circuit only when the first part of one of them goes on from that of the other past the mark that stands
between the parts (`Target.circuit_eq_iff`). In a flow without such targets no target has to do with the circuit of
another one: a call finds its breaker as the last call to the same target has left it (`isolated_of_run`).
-/

namespace IntegrationFlow

open Simulation Schema

/-! ### Required settings -/

/-- A required text is given, and not empty, where nothing is wrong with a field. -/
theorem FormField.exists_text_of_problems_eq_nil {f : FormField} {config : Entries} (hrequired : f.required = true)
    (hwidget : f.widget = .text ∨ f.widget = .select) (h : f.problems config = []) :
    ∃ s, Entries.field? f.name config = some (.text s) ∧ s ≠ "" := by
  unfold FormField.problems at h
  split at h
  · simp at h
  · next hgiven =>
    rw [hrequired, Bool.true_and, Bool.not_eq_true] at hgiven
    unfold FormField.typeProblems at h
    unfold FormField.valueIn at h hgiven
    cases hfield : Entries.field? f.name config with
    | none => simp [hfield, isBlankValue] at hgiven
    | some v =>
      rw [hfield] at h hgiven
      dsimp only [Option.getD_some] at h hgiven
      cases v with
      | text s =>
        refine ⟨s, rfl, ?_⟩
        rintro rfl
        simp [isBlankValue, Text.isAllBlank] at hgiven
      | null => simp [isBlankValue] at hgiven
      | _ => rcases hwidget with hwidget | hwidget <;> simp [FormField.kindProblem, hwidget] at h

/-- A form that finds nothing wrong finds nothing wrong with any of its fields. -/
theorem NodeType.problems_eq_nil_of_configProblems {t : NodeType} {config : Entries} (h : t.configProblems config = [])
    {f : FormField} (hf : f ∈ t.form) : f.problems config = [] := by
  have hform : t.formProblems config = [] := by
    unfold NodeType.configProblems at h
    split at h
    · assumption
    · cases h
  exact List.flatMap_eq_nil_iff.1 (List.append_eq_nil_iff.1 hform).2 f hf

namespace Run

/-! ### Targets -/

/-- What a node calls: an endpoint of a connector, or a method of a service. -/
structure Target where
  type : String
  owner : String
  operation : String
deriving DecidableEq

namespace Target

/-- What stands between the parts of a target. -/
def mark (t : Target) : Char :=
  if t.type = Kind.connector.name then '/' else '.'

/-- The name of the circuit of a target. -/
def circuit (t : Target) : String :=
  t.owner ++ String.singleton t.mark ++ t.operation

/-- The first part of another target goes on from that of this one, past the mark. -/
def LeadsInto (t u : Target) : Prop :=
  t.owner.toList ++ [t.mark] <+: u.owner.toList

instance (t u : Target) : Decidable (t.LeadsInto u) :=
  inferInstanceAs (Decidable (_ <+: _))

/-- A target is one of a connector or of a service. -/
def IsBuiltin (t : Target) : Prop :=
  t.type = Kind.connector.name ∨ t.type = Kind.serviceCall.name

private theorem type_eq_of_mark_eq {t u : Target} (ht : t.IsBuiltin) (hu : u.IsBuiltin) (h : t.mark = u.mark) :
    t.type = u.type := by
  rcases ht with ht | ht <;> rcases hu with hu | hu <;> rw [ht, hu] <;> simp [mark, ht, hu, Kind.name] at h

/-- Two targets have one circuit exactly when they are the same, unless one leads into the other. -/
theorem circuit_eq_iff {t u : Target} (ht : t.IsBuiltin) (hu : u.IsBuiltin) (htu : ¬ t.LeadsInto u)
    (hut : ¬ u.LeadsInto t) : t.circuit = u.circuit ↔ t = u := by
  refine ⟨fun h => ?_, congrArg circuit⟩
  have hlists : t.owner.toList ++ [t.mark] ++ t.operation.toList = u.owner.toList ++ [u.mark] ++ u.operation.toList := by
    simpa [circuit] using congrArg String.toList h
  -- The shorter of the two first parts with their marks begins the longer one, and cannot end before its mark.
  have hfirst : t.owner.toList ++ [t.mark] = u.owner.toList ++ [u.mark] := by
    have htu' : t.owner.toList ++ [t.mark] <+: u.owner.toList ++ [u.mark] ++ u.operation.toList :=
      hlists ▸ List.prefix_append _ _
    rcases List.prefix_or_prefix_of_prefix htu' (List.prefix_append _ _) with h | h
    · exact (List.prefix_concat_iff.1 h).resolve_right htu
    · exact ((List.prefix_concat_iff.1 h).resolve_right hut).symm
  rw [hfirst, List.append_cancel_left_eq, String.toList_inj] at hlists
  obtain ⟨howner, hmark⟩ := List.append_inj' hfirst rfl
  rw [String.toList_inj] at howner
  have htype := type_eq_of_mark_eq ht hu (List.singleton_inj.1 hmark)
  cases t
  cases u
  simp only at howner hlists htype
  rw [howner, hlists, htype]

end Target

/-- The target of a node. -/
def targetOf? (n : Node) : Option Target :=
  if n.type = Kind.connector.name then some ⟨n.type, settingText n "connectorId", settingText n "endpointId"⟩
  else if n.type = Kind.serviceCall.name then some ⟨n.type, settingText n "serviceName", settingText n "methodName"⟩
  else none

variable {env : Env} {n : Node} {t : Target}

theorem isBuiltin_of_targetOf? (h : targetOf? n = some t) : t.IsBuiltin := by
  unfold targetOf? at h
  split at h
  · next hconnector =>
    cases h
    exact .inl hconnector
  · split at h
    · next hservice =>
      cases h
      exact .inr hservice
    · cases h

/-- A node of a valid flow has the settings that its kind requires. -/
private theorem truthy_setting (valid : env.Valid) (hn : n ∈ env.flow.nodes) {k : Kind} (hk : n.type = k.name)
    {f : FormField} (hf : f ∈ k.form) (hrequired : f.required = true) (hwidget : f.widget = .text ∨ f.widget = .select) :
    (setting n f.name).truthy = true := by
  obtain ⟨l, hname, hfind⟩ := valid.exists_kind hn
  obtain rfl := Kind.name_injective (hname.symm.trans hk)
  have hproblems := valid.flow.configProblems_eq_nil hn hfind
  obtain ⟨s, hs, hne⟩ := FormField.exists_text_of_problems_eq_nil hrequired hwidget
    (NodeType.problems_eq_nil_of_configProblems hproblems hf)
  simpa [setting, hs, Value.truthy] using hne

/-- The calls of a node of a valid flow go through the circuit of its target. -/
theorem circuitName_eq (valid : env.Valid) (hn : n ∈ env.flow.nodes) (h : targetOf? n = some t) :
    circuitName n = t.circuit := by
  unfold targetOf? at h
  unfold circuitName
  split at h
  · next hconnector =>
    cases h
    have hgiven := truthy_setting valid hn hconnector
      (f := { name := "connectorId", widget := .select, label := "Connector", required := true })
      (by simp [Kind.form]) rfl (.inr rfl)
    simp [hconnector, hgiven, Target.circuit, Target.mark]
  · next hother =>
    split at h
    · next hservice =>
      cases h
      have hgiven := truthy_setting valid hn hservice
        (f := { name := "serviceName", widget := .text, label := "Service Name", required := true,
                placeholder := some "OrderService" })
        (by simp [Kind.form]) rfl (.inl rfl)
      have hdistinct : Kind.serviceCall.name ≠ Kind.connector.name := by decide
      simp [hservice, hdistinct, hgiven, Target.circuit, Target.mark]
    · cases h

/-- A node that makes calls has a target. -/
theorem exists_target {a : Ask} (valid : env.Valid) (hn : n ∈ env.flow.nodes) (ha : a.IsOf env n) :
    ∃ t, targetOf? n = some t ∧ a.call.node = n ∧ a.call.circuit = t.circuit := by
  obtain ⟨config, ⟨s, s', hconfig⟩, hcall⟩ := ha
  obtain ⟨c, hkind, -, hok⟩ := valid.exists_semanticsOf hn
  rw [hok s] at hconfig
  cases hconfig
  obtain ⟨hnode, hcircuit, hcalls⟩ := of_callOf?_eq_some hcall
  have htarget : ∃ t, targetOf? n = some t := by
    rcases hcalls with hcalls | hcalls
    · rw [hcalls] at hkind
      exact ⟨_, if_pos hkind⟩
    · rw [hcalls] at hkind
      exact ⟨_, (if_neg (by simp [hkind, Kind.name])).trans (if_pos hkind)⟩
  obtain ⟨t, ht⟩ := htarget
  exact ⟨t, ht, hnode, hcircuit.trans (circuitName_eq valid hn ht)⟩

/-! ### Targets of a flow -/

/-- The targets of the nodes of a flow. -/
def targetsOf (f : Flow) : List Target :=
  f.nodes.filterMap targetOf?

/-- No target of the flow leads into another one. -/
def SeparatesTargets (f : Flow) : Prop :=
  ∀ t ∈ targetsOf f, ∀ u ∈ targetsOf f, ¬ t.LeadsInto u

instance (f : Flow) : Decidable (SeparatesTargets f) :=
  inferInstanceAs (Decidable (∀ t ∈ targetsOf f, ∀ u ∈ targetsOf f, ¬ t.LeadsInto u))

/-- In a flow that separates its targets, two of them have one circuit exactly when they are the same. -/
theorem SeparatesTargets.circuit_eq_iff {f : Flow} (h : SeparatesTargets f) {m n : Node} (hm : m ∈ f.nodes)
    (hn : n ∈ f.nodes) {t u : Target} (ht : targetOf? m = some t) (hu : targetOf? n = some u) :
    t.circuit = u.circuit ↔ t = u := by
  have htmem : t ∈ targetsOf f := List.mem_filterMap.2 ⟨m, hm, ht⟩
  have humem : u ∈ targetsOf f := List.mem_filterMap.2 ⟨n, hn, hu⟩
  exact Target.circuit_eq_iff (isBuiltin_of_targetOf? ht) (isBuiltin_of_targetOf? hu) (h t htmem u humem)
    (h u humem t htmem)

/-- A call to a target asks its breaker. -/
def Ask.IsTo (t : Target) (a : Ask) : Prop :=
  a.call.config.circuitBreaker = true ∧ targetOf? a.call.node = some t

instance (t : Target) (a : Ask) : Decidable (a.IsTo t) :=
  inferInstanceAs (Decidable (_ ∧ _))

/-- The attempts on a target. -/
def attemptsTo (env : Env) (t : Target) (asks : List Ask) : List Attempt :=
  asks.filterMap fun a => if a.IsTo t then a.attempt? env else none

/-- The last call that has asked the breaker of a target. -/
def lastTo? (t : Target) (asks : List Ask) : Option Ask :=
  (asks.filter (Ask.IsTo t)).getLast?

/-- The last call that has asked the breaker of a circuit. -/
def lastOn? (circuit : String) (asks : List Ask) : Option Ask :=
  (asks.filter fun a => a.call.config.circuitBreaker ∧ a.call.circuit = circuit).getLast?

/-! ### Breakers of other circuits -/

section

variable {a : Ask} {circuit : String}

/-- An ask leaves all breakers as they are but that of its own circuit. -/
theorem Ask.get_after_of_ne {ms : Int} (hms : env.engine.durations.ofNode a.call.node = .ok ms)
    (hother : ¬ (a.call.config.circuitBreaker = true ∧ a.call.circuit = circuit)) :
    (a.after env).breakers.get circuit = a.state.breakers.get circuit := by
  cases hpasses : a.passes with
  | false => exact (Ask.of_refused hpasses).2.2.2 circuit
  | true =>
    obtain ⟨x, -, -, -, -, -, hget⟩ := Ask.of_passes hms hpasses
    rw [hget, if_neg hother]

theorem lastOn?_cons (circuit : String) (a : Ask) (as : List Ask) : lastOn? circuit (a :: as) =
    (lastOn? circuit as).or (if a.call.config.circuitBreaker ∧ a.call.circuit = circuit then some a else none) := by
  unfold lastOn?
  rw [List.filter_cons]
  by_cases hon : a.call.config.circuitBreaker = true ∧ a.call.circuit = circuit
  · rw [if_pos (by simpa using hon), if_pos hon, List.getLast?_cons]
    cases (as.filter fun a => a.call.config.circuitBreaker ∧ a.call.circuit = circuit).getLast? <;> rfl
  · rw [if_neg (by simpa using hon), if_neg hon, Option.or_none]

/-- The breaker of a circuit is as the last ask on the circuit has left it. -/
theorem Through.get_eq {s s' : State} {as : List Ask} (h : Through env s as s')
    (hlatency : ∀ a ∈ as, ∃ ms, env.engine.durations.ofNode a.call.node = .ok ms) (circuit : String) :
    s'.breakers.get circuit = match lastOn? circuit as with
      | some a => (a.after env).breakers.get circuit
      | none => s.breakers.get circuit := by
  induction h with
  | idle hidle =>
    rw [hidle.breakers]
    rfl
  | @ask s s' a as hidle hrest ih =>
    rw [ih fun b hb => hlatency b (List.mem_cons_of_mem _ hb), lastOn?_cons]
    cases lastOn? circuit as with
    | some b => rfl
    | none =>
      dsimp only [Option.none_or]
      by_cases hon : a.call.config.circuitBreaker = true ∧ a.call.circuit = circuit
      · rw [if_pos hon]
      · obtain ⟨ms, hms⟩ := hlatency a List.mem_cons_self
        rw [if_neg hon, Ask.get_after_of_ne hms hon, hidle.breakers]

end

/-- In a run of a valid flow that separates its targets, nodes share a circuit exactly when they have the same target, and
a call finds its breaker as the last call to the same target has left it. So it is refused only when its own target has
tripped the circuit. -/
theorem isolated_of_run {engine : Engine} {f : Flow} {r : Request} {report : Report}
    (hbuiltin : engine.registry = .builtin) (hrun : engine.run f r = .ok report) (hseparate : SeparatesTargets f) :
    (∀ m ∈ f.nodes, ∀ n ∈ f.nodes, ∀ t u, targetOf? m = some t → targetOf? n = some u →
      (circuitName m = circuitName n ↔ t = u)) ∧
    ∀ past a later, asksOf (r.env engine f) r.openCircuits = past ++ a :: later → a.call.config.circuitBreaker = true →
      ∃ t, targetOf? a.call.node = some t ∧
        (a.breaker = match lastTo? t past with
          | some b => (b.after (r.env engine f)).breakers.get t.circuit
          | none => (Breakers.start engine.policy r.openCircuits).get t.circuit) ∧
        (1 ≤ engine.policy.threshold → a.passes = false →
          HasTripped engine.policy (r.openCircuits.contains t.circuit) (attemptsTo (r.env engine f) t past)) := by
  obtain ⟨hvalid, rfl⟩ := Engine.run_eq_ok_iff.1 hrun
  have valid : (r.env engine f).Valid := ⟨hbuiltin, hvalid⟩
  refine ⟨fun m hm n hn t u ht hu => ?_, fun past a later hasks hbreaker => ?_⟩
  · rw [circuitName_eq valid hm ht, circuitName_eq valid hn hu]
    exact hseparate.circuit_eq_iff hm hn ht hu
  · have hmem (b : Ask) (hb : b ∈ past ++ a :: later) : b ∈ asksOf (r.env engine f) r.openCircuits := hasks ▸ hb
    obtain ⟨n, hn, hof⟩ := exists_isOf_of_mem_asksOf valid (hmem a (List.mem_append_right _ List.mem_cons_self))
    obtain ⟨t, ht, hnode, hcircuit⟩ := exists_target valid hn hof
    -- The asks on the circuit are those to the target.
    have hsame (b : Ask) (hb : b ∈ past) :
        (b.call.config.circuitBreaker = true ∧ b.call.circuit = t.circuit) ↔ b.IsTo t := by
      obtain ⟨m, hm, hof'⟩ := exists_isOf_of_mem_asksOf valid (hmem b (List.mem_append_left _ hb))
      obtain ⟨u, hu, hnode', hcircuit'⟩ := exists_target valid hm hof'
      rw [Ask.IsTo, hcircuit', hnode', hu, hseparate.circuit_eq_iff hm hn hu ht, Option.some_inj]
    refine ⟨t, hnode ▸ ht, ?_, fun hthreshold hrefused => ?_⟩
    · obtain ⟨s, hpast, hidle⟩ := exists_through_of_asksOf hasks
      have hget := hpast.get_eq (fun b hb => exists_latency_of_mem_asksOf valid (hmem b (List.mem_append_left _ hb)))
        t.circuit
      have hlast : lastOn? t.circuit past = lastTo? t past := by
        unfold lastOn? lastTo?
        rw [List.filter_congr fun b hb => decide_eq_decide.2 (hsame b hb)]
      rw [hlast] at hget
      unfold Ask.breaker
      rw [hidle.breakers, hcircuit, hget]
      rfl
    · have htripped := (guarded_of_asksOf valid hthreshold hasks hbreaker).hasTripped hrefused
      have hattempts : attemptsOn (r.env engine f) t.circuit past = attemptsTo (r.env engine f) t past := by
        unfold attemptsOn attemptsTo
        exact List.filterMap_congr fun b hb => by simp only [hsame b hb]
      rw [hcircuit, hattempts] at htripped
      exact htripped

/-- Two calls. The first one, of an endpoint of "crm/eu", fails until its circuit opens; the second one would succeed. -/
def twoCalls (owner operation : String) : Flow where
  id := "targets"
  name := "Targets"
  nodes := [Kind.ingress.node "start" [],
    Kind.connector.node "first" [("connectorId", .text "crm/eu"), ("endpointId", .text "contacts"),
      ("failureMode", .text "error"), ("retries", .int 4)],
    Kind.connector.node "second" [("connectorId", .text owner), ("endpointId", .text operation)]]
  edges := [{ id := "1", source := "start", target := "first" }, { id := "2", source := "start", target := "second" }]
  createdAt := default
  updatedAt := default

/-- A run of two calls. -/
def callsRun : Request where
  input := .object []
  execution := "run"

/-- After five failures of the first call, the second one, of another target, finds its breaker as it was. -/
theorem isolated_of_callsRun : ∃ report past a t, Engine.run {} (twoCalls "erp" "contacts") callsRun = .ok report ∧
    asksOf (callsRun.env {} (twoCalls "erp" "contacts")) [] = past ++ [a] ∧ past.length = 5 ∧
      targetOf? a.call.node = some t ∧ t.owner = "erp" ∧ a.passes = true ∧
        a.breaker = match lastTo? t past with
          | some b => (b.after (callsRun.env {} (twoCalls "erp" "contacts"))).breakers.get t.circuit
          | none => (Breakers.start {} []).get t.circuit := by
  have hrun : Engine.run {} (twoCalls "erp" "contacts") callsRun =
      .ok (execute (callsRun.env {} (twoCalls "erp" "contacts")) []) := Engine.run_eq_ok_iff.2 ⟨by decide, rfl⟩
  have hpasses : (asksOf (callsRun.env {} (twoCalls "erp" "contacts")) []).map
      (fun a => (a.passes, (targetOf? a.call.node).map (·.owner))) =
        List.replicate 5 (true, some "crm/eu") ++ [(true, some "erp")] := by
    decide +kernel
  have hbreakers : ∀ a ∈ asksOf (callsRun.env {} (twoCalls "erp" "contacts")) [],
      a.call.config.circuitBreaker = true := by
    decide +kernel
  obtain ⟨past, last, hasks, hpast, hlast⟩ := List.map_eq_append_iff.1 hpasses
  obtain ⟨a, rfl, ha⟩ := List.map_eq_singleton_iff.1 hlast
  obtain ⟨t, ht, hbreaker, -⟩ := (isolated_of_run rfl hrun (by decide)).2 past a [] hasks
    (hbreakers a (hasks ▸ List.mem_append_right _ (List.mem_singleton_self a)))
  rw [ht] at ha
  refine ⟨_, past, a, t, hrun, hasks, ?_, ht, ?_, ?_, hbreaker⟩
  · simpa using congrArg List.length hpast
  · simpa using congrArg Prod.snd ha
  · exact congrArg Prod.fst ha

/-- When the second target is the endpoint "eu/contacts" of "crm", both targets have one circuit, and the failures of the
first call open it for the second one, which is refused without an attempt. -/
theorem trace_of_callsRun : ∃ report t, Engine.run {} (twoCalls "crm" "eu/contacts") callsRun = .ok report ∧
    report.trace = .ok t ∧ (targetsOf (twoCalls "crm" "eu/contacts")).Nodup ∧
      t.steps.map (fun x => (x.node, x.error?.map (·.cause.message))) =
        [("start", none), ("first", some "Call to 'crm/eu/contacts' failed (simulated)"),
          ("second", some "Circuit 'crm/eu/contacts' is open; call not attempted")] := by
  obtain ⟨report, s, hrun, htrace, hsteps⟩ := @exists_trace_of_isOk {} (twoCalls "crm" "eu/contacts") callsRun
    (fun s => s.records.map (fun x => (x.node, x.error?.map (·.cause.message))) =
      [("start", none), ("first", some "Call to 'crm/eu/contacts' failed (simulated)"),
        ("second", some "Circuit 'crm/eu/contacts' is open; call not attempted")])
    (by decide) (by decide +kernel) (by decide +kernel)
  refine ⟨report, _, hrun, htrace, by decide, ?_⟩
  rw [← hsteps]
  exact List.map_map ..

end Run

end IntegrationFlow
