import IntegrationFlow.Proofs.Run.Recovery

/-!
# The steps of a run

Every visit of a node adds one `Turn` to the steps of a run: the step of the node, and before it those of the attempts
that an error handler has made on another node. So the steps without the attempts follow the order of the flow, and
only the nodes have none that are not reachable (`steps_of_run`). `Turned` says what is kept from visit to visit. Its
key part is where a failure comes from: a node that was visited, and that can be tried again only if it is no handler.
-/

namespace IntegrationFlow.Run

open Simulation Sim

/-- What the visit of a node adds to a list: the attempts that were made on another node, and then its own entry. -/
structure Turn (α : Type) where
  again : List α
  own : α

namespace Turn

variable {α β : Type}

/-- The entries of a turn in order. -/
def all (t : Turn α) : List α :=
  t.again ++ [t.own]

/-- The turn of other entries. -/
def map (f : α → β) (t : Turn α) : Turn β :=
  ⟨t.again.map f, f t.own⟩

@[simp] theorem all_map (f : α → β) (t : Turn α) : (t.map f).all = t.all.map f := by
  simp [all, map]

end Turn

/-! ### Where failures come from -/

/-- A failure has arisen at a node that was visited; at a handler only when the handler was never carried out. -/
def Ledger.Knows (l : Ledger) (done : List Node) (f : Failure) : Prop :=
  ∃ m ∈ done, m.id = f.node ∧ (m.type = Kind.errorHandler.name → l.invoked.lookup m.id = none)

/-- What the visit of a node has added, as long as the nodes after it leave alone what they have not done. -/
structure Took (env : Env) (l : Ledger) (n : Node) (turn : Turn Record) : Prop where
  node : turn.own.node = n.id
  type : turn.own.type = n.type
  others : n.type ≠ Kind.errorHandler.name → turn.again = []
  count : n.type = Kind.errorHandler.name → turn.again.length = turn.own.retryCount
  failed : ∀ r ∈ turn.again.dropLast, r.status = .error
  verdict : ∀ r, turn.again.getLast? = some r → (turn.own.status = .success ↔ r.status = .success)
  attempts : turn.again ≠ [] → ∃ c incoming f origin, Kind.errorHandler.read n.data.config = .fits (.errorHandler c) ∧
    l.invoked.lookup n.id = some incoming ∧ incoming.failure? = some f ∧ origin ∈ env.flow.nodes ∧
      origin.id = f.node ∧ origin.type ≠ Kind.errorHandler.name ∧ l.invoked.lookup origin.id ≠ none ∧
        AreAttempts origin turn.again ∧ turn.again.length ≤ (strategyOf env.flow.config c).2

/-- When a node has not succeeded, none of the attempts in front of its own record has. -/
theorem Took.status_ne_success {env : Env} {l : Ledger} {n : Node} {turn : Turn Record} (h : Took env l n turn)
    (hown : turn.own.status ≠ .success) : ∀ r ∈ turn.again, r.status ≠ .success := by
  intro r hr hsuccess
  obtain ⟨last, hlast⟩ := Option.ne_none_iff_exists'.1 (mt List.getLast?_eq_none_iff.1 (List.ne_nil_of_mem hr))
  obtain ⟨before, hbefore⟩ := List.getLast?_eq_some_iff.1 hlast
  rw [hbefore, List.mem_append, List.mem_singleton] at hr
  rcases hr with hr | rfl
  · have herror := h.failed r (by rw [hbefore, List.dropLast_concat]; exact hr)
    rw [herror] at hsuccess
    cases hsuccess
  · exact hown ((h.verdict r hlast).2 hsuccess)

/-- The records of a run after some nodes were visited. -/
structure Turned (env : Env) (done : List Node) (l : Ledger) (turns : List (Turn Record)) : Prop where
  records : l.records = turns.flatMap Turn.all
  took : List.Forall₂ (Took env l) done turns
  /-- Only visited nodes have records. -/
  visited : ∀ r ∈ l.records, r.node ∈ done.map (·.id)
  /-- Only visited nodes were invoked. -/
  entered : ∀ id, l.invoked.lookup id ≠ none → id ∈ done.map (·.id)
  /-- The first record of a node that was invoked has the input of the node. -/
  first : ∀ id, l.invoked.lookup id ≠ none → ∃ r, l.records.find? (·.node == id) = some r ∧ r.input? = some (.input id)
  /-- The failures on the edges come from visited nodes. -/
  known : ∀ e ∈ env.flow.edges, ∀ f, l.failureOn e = some f → l.Knows done f

private theorem exists_mem_of_forall₂ {α β : Type} {rel : α → β → Prop} {as : List α} {bs : List β}
    (h : List.Forall₂ rel as bs) {a : α} (ha : a ∈ as) : ∃ b ∈ bs, rel a b := by
  induction h with
  | nil => simp at ha
  | cons hab _ ih =>
    rcases List.mem_cons.1 ha with rfl | ha
    · exact ⟨_, List.mem_cons_self, hab⟩
    · obtain ⟨b, hb, hrel⟩ := ih ha
      exact ⟨b, List.mem_cons_of_mem _ hb, hrel⟩

/-- Every node that was visited has its record. -/
theorem Turned.exists_record {env : Env} {done : List Node} {l : Ledger} {turns : List (Turn Record)}
    (h : Turned env done l turns) {n : Node} (hn : n ∈ done) : ∃ r ∈ l.records, r.node = n.id := by
  obtain ⟨turn, hturn, htook⟩ := exists_mem_of_forall₂ h.took hn
  refine ⟨turn.own, ?_, htook.node⟩
  rw [h.records]
  exact List.mem_flatMap.2 ⟨turn, hturn, by simp [Turn.all]⟩

theorem turned_start (env : Env) : Turned env [] ⟨.running, [], [], [], []⟩ [] where
  records := rfl
  took := .nil
  visited := by simp
  entered := fun _ h => absurd rfl h
  first := fun _ h => absurd rfl h
  known := fun _ _ _ h => by cases h

section

variable {env : Env} {n : Node} {done later : List Node} {before after : Ledger} {turns : List (Turn Record)}
  {start : String}

/-- What a node has added stays what it was when another node is visited. -/
private theorem Took.mono {m : Node} {turn : Turn Record} (h : Took env before m turn)
    (hinvoked : ∀ id, before.invoked.lookup id ≠ none → after.invoked.lookup id = before.invoked.lookup id) :
    Took env after m turn := by
  refine ⟨h.node, h.type, h.others, h.count, h.failed, h.verdict, fun hne => ?_⟩
  obtain ⟨c, incoming, f, origin, hc, hincoming, hf, hmem, hid, htype, horigin, hattempts, hbound⟩ := h.attempts hne
  refine ⟨c, incoming, f, origin, hc, ?_, hf, hmem, hid, htype, ?_, hattempts, hbound⟩
  · rw [hinvoked m.id (by simp [hincoming]), hincoming]
  · rw [hinvoked origin.id horigin]
    exact horigin

/-- The origin of a failure that was known stays known. -/
private theorem Ledger.Knows.mono {f : Failure} (h : before.Knows done f) (hn : n.id ∉ done.map (·.id))
    (hvisited : Visited env n before after) : after.Knows (done ++ [n]) f := by
  obtain ⟨m, hm, hid, hhandler⟩ := h
  have hne : m.id ≠ n.id := fun heq => hn (heq ▸ List.mem_map_of_mem hm)
  refine ⟨m, List.mem_append_left _ hm, hid, fun htype => ?_⟩
  rw [hvisited.invoked_lookup_eq hne]
  exact hhandler htype

/-- Only a failure that goes on from a node is on its edges. -/
private theorem eq_of_failure?_emission {o : NodeOutcome} {payload : Place} {failure? : Option Failure} {port : Port}
    {f : Failure} (h : (emission o payload failure? port).failure? = some f) : failure? = some f := by
  unfold emission at h
  split at h
  · rwa [failure?_signalAt] at h
  · cases h

/-- What goes on from a node has arisen there, or came in. -/
private theorem failure?_of_outstanding {o : NodeOutcome} {incoming : Signal} {f : Failure}
    (h : outstanding o incoming = some f) : o.failure? = some f ∨ incoming.failure? = some f := by
  cases hown : o.failure? with
  | some g =>
    rw [outstanding_of_failure hown] at h
    exact .inl h
  | none =>
    rw [outstanding_of_success hown] at h
    split at h
    · cases h
    · exact .inr h

/-- Where the failures come from is known after a visit, when it was known before. -/
private theorem Turned.known_visited (valid : env.Valid) (h : Turned env done before turns)
    (hn : n.id ∉ done.map (·.id)) (hvisited : Visited env n before after) {e : Edge} (he : e ∈ env.flow.edges)
    {f : Failure} (hf : after.failureOn e = some f) : after.Knows (done ++ [n]) f := by
  have hbefore {e : Edge} (he : e ∈ env.flow.edges) {f : Failure} (hf : before.failureOn e = some f) :
      after.Knows (done ++ [n]) f :=
    (h.known e he f hf).mono hn hvisited
  by_cases hsource : e.source = n.id
  · have hout : e ∈ env.flow.outgoing n.id := Flow.mem_outgoing.2 ⟨he, hsource⟩
    cases hvisited with
    | skipped r node status calm others dead rest =>
      rw [Ledger.failureOn_of_lookup (dead e hout)] at hf
      cases hf
    | carried o incoming again r emitted came invoked entered attended tells routed rest fetched tried origin =>
      obtain ⟨port, -, hsignal⟩ := routed.own e hout
      rw [Ledger.failureOn_of_lookup hsignal] at hf
      -- What came in was on an edge before, so its origin is known.
      have hcame {g : Failure} (hg : incoming.failure? = some g) : after.Knows (done ++ [n]) g := by
        obtain ⟨e', he', hon⟩ := fetched g hg
        exact hbefore (Flow.mem_incoming.1 he').1 hon
      rcases failure?_of_outstanding (eq_of_failure?_emission hf) with hown | hin
      · rcases origin f hown with ⟨hid, hhandler⟩ | ⟨g, hg, hid⟩
        · refine ⟨n, by simp, hid.symm, fun htype => ?_⟩
          rw [hhandler htype]
          exact by_contra fun hinvoked => hn (h.entered n.id hinvoked)
        · obtain ⟨m, hm, hmid, hhandler⟩ := hcame hg
          exact ⟨m, hm, hmid.trans hid.symm, hhandler⟩
      · exact hcame hin
  · rw [hvisited.failureOn_eq valid he hsource] at hf
    exact hbefore he hf

/-- What a visit adds to the records of a run. -/
theorem Turned.exists_took (valid : env.Valid) (h : Turned env done before turns)
    (hnodes : ∀ m ∈ done ++ [n], m ∈ env.flow.nodes) (hn : n.id ∉ done.map (·.id))
    (hvisited : Visited env n before after) : ∃ turn, Took env after n turn ∧
      after.records = before.records ++ turn.all ∧ (∀ r ∈ turn.again, r.node ∈ done.map (·.id)) ∧
        (after.invoked.lookup n.id ≠ none → turn.own.input? = some (.input n.id)) := by
  have hfresh : before.invoked.lookup n.id = none := by_contra fun hinvoked => hn (h.entered n.id hinvoked)
  have hlookup {id : String} (hne : id ≠ n.id) : after.invoked.lookup id = before.invoked.lookup id :=
    hvisited.invoked_lookup_eq hne
  cases hvisited with
  | skipped r node status calm others dead rest type count =>
    refine ⟨⟨[], r⟩, ⟨node, type, fun _ => rfl, fun _ => count.symm, by simp, by simp, fun hne => absurd rfl hne⟩,
      congrArg Ledger.records rest, by simp, fun hinvoked => ?_⟩
    have hsame : after.invoked = before.invoked := by rw [rest]; rfl
    rw [hsame] at hinvoked
    exact absurd hfresh hinvoked
  | carried o incoming again r emitted came invoked entered attended tells routed rest fetched tried origin =>
    -- The node that is tried again is one that was visited, and no handler, for it had an input.
    have horigin {x : Record} (hx : x ∈ again) {f : Failure} (hf : incoming.failure? = some f) {node : Node}
        (hmem : node ∈ env.flow.nodes) (hid : node.id = f.node) (hattempts : AreAttempts node again) :
        node ∈ done ∧ node.type ≠ Kind.errorHandler.name ∧ after.invoked.lookup node.id ≠ none := by
      obtain ⟨e, he, hon⟩ := fetched f hf
      obtain ⟨m, hm, hmid, hhandler⟩ := h.known e (Flow.mem_incoming.1 he).1 f hon
      obtain rfl : m = node :=
        valid.flow.eq_of_id_eq (hnodes m (List.mem_append_left _ hm)) hmem (hmid.trans hid.symm)
      obtain ⟨-, -, own, hown⟩ := attended.retried x hx
      rw [(hattempts x hx).1] at hown
      have hne : m.id ≠ n.id := fun heq => hn (heq ▸ List.mem_map_of_mem hm)
      refine ⟨hm, fun htype => ?_, by simp [hown]⟩
      rw [hlookup hne, hhandler htype] at hown
      cases hown
    refine ⟨⟨again, r⟩, ⟨tells.node, tells.type, fun hother => ?_, fun htype => ?_, attended.settles.failed,
      fun x hx => ?_, fun hne => ?_⟩, congrArg Ledger.records rest, fun x hx => ?_, fun _ => tells.input⟩
    · exact List.eq_nil_iff_forall_not_mem.2 fun x hx => hother (attended.retried x hx).1
    · rw [tells.retryCount]
      exact (attended.count htype).symm
    · rw [attended.settles.verdict x hx, tells.status]
      cases o.failure? <;> simp
    · obtain ⟨x, hx⟩ := List.exists_mem_of_ne_nil again hne
      obtain ⟨c, f, node, hc, hf, hmem, hid, hattempts, hbound⟩ := attended.attempts hne
      obtain ⟨-, htype, hinvoked⟩ := horigin hx hf hmem hid hattempts
      exact ⟨c, incoming, f, node, hc, by rw [tried hne, List.lookup_cons_self], hf, hmem, hid, htype, hinvoked,
        hattempts, hbound⟩
    · obtain ⟨c, f, node, hc, hf, hmem, hid, hattempts, hbound⟩ := attended.attempts (List.ne_nil_of_mem hx)
      rw [(hattempts x hx).1]
      exact List.mem_map_of_mem (horigin hx hf hmem hid hattempts).1

/-- A visit adds one turn. -/
private theorem Turned.visit (valid : env.Valid) (h : Turned env done before turns)
    (hnodes : ∀ m ∈ done ++ [n], m ∈ env.flow.nodes) (hn : n.id ∉ done.map (·.id))
    (hvisited : Visited env n before after) : ∃ turn, Turned env (done ++ [n]) after (turns ++ [turn]) := by
  obtain ⟨turn, htook, hrecords, hagain, hinput⟩ := h.exists_took valid hnodes hn hvisited
  have hlookup {id : String} (hne : id ≠ n.id) : after.invoked.lookup id = before.invoked.lookup id :=
    hvisited.invoked_lookup_eq hne
  have hkept (id : String) (hid : before.invoked.lookup id ≠ none) :
      after.invoked.lookup id = before.invoked.lookup id :=
    hlookup fun heq => hn (heq ▸ h.entered id hid)
  have hentered {id : String} (hid : after.invoked.lookup id ≠ none) (hne : id ≠ n.id) :
      before.invoked.lookup id ≠ none := by
    rwa [hlookup hne] at hid
  refine ⟨turn, ⟨?_, ?_, fun r hr => ?_, fun id hid => ?_, fun id hid => ?_,
    fun e he f hf => h.known_visited valid hn hvisited he hf⟩⟩
  · rw [hrecords, h.records]
    simp
  · exact List.rel_append (h.took.imp fun _ _ htook => htook.mono hkept) (.cons htook .nil)
  · rw [List.map_append, List.mem_append]
    rw [hrecords] at hr
    rcases List.mem_append.1 hr with hr | hr
    · exact .inl (h.visited r hr)
    · rcases List.mem_append.1 hr with hr | hr
      · exact .inl (hagain r hr)
      · rw [List.mem_singleton.1 hr, htook.node]
        exact .inr (by simp)
  · rw [List.map_append, List.mem_append]
    by_cases hne : id = n.id
    · exact .inr (by simp [hne])
    · exact .inl (h.entered id (hentered hid hne))
  · rw [hrecords, List.find?_append]
    by_cases hne : id = n.id
    · subst hne
      -- The node has no record before its own.
      have hnone {rs : List Record} (hrs : ∀ r ∈ rs, r.node ∈ done.map (·.id)) : rs.find? (·.node == n.id) = none := by
        refine List.find?_eq_none.2 fun r hr heq => hn ?_
        rw [← eq_of_beq heq]
        exact hrs r hr
      refine ⟨turn.own, ?_, hinput hid⟩
      rw [hnone h.visited, Turn.all, List.find?_append, hnone hagain]
      simp [htook.node]
    · obtain ⟨r, hr, hin⟩ := h.first id (hentered hid hne)
      exact ⟨r, by rw [hr]; rfl, hin⟩

/-- Every visit along the order of a run adds one turn. -/
theorem kept_turned (valid : env.Valid) {order : List Node} (hstable : IsStableOrder env.flow start order) :
    Kept env order fun done l => ∃ turns, Turned env done l turns := by
  rintro done n later before after rfl ⟨turns, h⟩ hvisited
  obtain ⟨turn, hturned⟩ := h.visit valid hstable.declared_concat hstable.isAvailable.fresh hvisited
  exact ⟨_, hturned⟩

end

/-! ### The steps of a trace -/

/-- A turn of a trace is that of a node: its own step, and in front of it the attempts of an error handler on the node
whose failure came in. -/
structure IsTurn (f : Flow) (invoked : List (String × Signal)) (steps : List Step) (n : Node) (turn : Turn Step) :
    Prop where
  node : turn.own.node = n.id
  type : turn.own.type = n.type
  /-- Only an error handler tries nodes again, and it counts its attempts. -/
  others : n.type ≠ Kind.errorHandler.name → turn.again = []
  count : n.type = Kind.errorHandler.name → turn.again.length = turn.own.retryCount
  /-- All attempts but the last one have failed, and the last one decides how the handler has fared. -/
  failed : ∀ x ∈ turn.again.dropLast, x.status = .error
  verdict : ∀ x, turn.again.getLast? = some x → (turn.own.status = .success ↔ x.status = .success)
  /-- The node that is tried again is the one whose failure came in, and never a handler. It has the input of its first
  step, and is tried no more often than the handler allows. -/
  attempts : turn.again ≠ [] → ∃ c incoming failure origin, Kind.errorHandler.read n.data.config = .fits (.errorHandler c) ∧
    invoked.lookup n.id = some incoming ∧ incoming.failure? = some failure ∧
      origin ∈ f.nodes ∧ origin.id = failure.node ∧ origin.type ≠ Kind.errorHandler.name ∧
        turn.again.length ≤ (strategyOf f.config c).2 ∧
          ∃ first, steps.find? (·.node == origin.id) = some first ∧
            ∀ x ∈ turn.again, x.node = origin.id ∧ x.type = origin.type ∧ x.input = first.input

/-- The steps that are made from the records of a visit. -/
private theorem Turned.isTurn {env : Env} {done : List Node} {l : Ledger} {turns : List (Turn Record)}
    (h : Turned env done l turns) (d : Documents) {n : Node} {turn : Turn Record} (htook : Took env l n turn) :
    IsTurn env.flow l.invoked (l.records.map (·.toStep d)) n (turn.map (·.toStep d)) where
  node := htook.node
  type := htook.type
  others := fun hother => by simp [Turn.map, htook.others hother]
  count := fun htype => by simpa [Turn.map, Record.toStep] using htook.count htype
  failed := fun x hx => by
    rw [Turn.map, ← List.map_dropLast] at hx
    obtain ⟨r, hr, rfl⟩ := List.mem_map.1 hx
    exact htook.failed r hr
  verdict := fun x hx => by
    rw [Turn.map, List.getLast?_map] at hx
    obtain ⟨r, hr, rfl⟩ := Option.map_eq_some_iff.1 hx
    exact htook.verdict r hr
  attempts := fun hne => by
    have hne : turn.again ≠ [] := fun hnil => hne (by simp [Turn.map, hnil])
    obtain ⟨c, incoming, f, origin, hc, hincoming, hf, hmem, hid, htype, hinvoked, hattempts, hbound⟩ :=
      htook.attempts hne
    -- The first record of the node shows its input, which is that of all attempts.
    obtain ⟨r, hr, hinput⟩ := h.first origin.id hinvoked
    refine ⟨c, incoming, f, origin, hc, hincoming, hf, hmem, hid, htype, by simpa [Turn.map] using hbound,
      r.toStep d, ?_, fun x hx => ?_⟩
    · rw [List.find?_map]
      exact congrArg (Option.map (·.toStep d)) hr
    · obtain ⟨y, hy, rfl⟩ := List.mem_map.1 hx
      obtain ⟨hnode, htype, hsame⟩ := hattempts y hy
      refine ⟨hnode, htype, ?_⟩
      simp only [Record.toStep, hsame, hinput]

/-- A run of a valid flow that was not cancelled has taken one turn for every node, in the order of the flow, and only
the nodes that are not reachable have no step. -/
theorem steps_of_run {engine : Engine} {f : Flow} {r : Request} {report : Report} {t : Trace}
    (hbuiltin : engine.registry = .builtin) (hrun : engine.run f r = .ok report) (htrace : report.trace = .ok t)
    (hfinished : t.status ≠ .cancelled) :
    ∃ s ingress order turns, simulate (r.env engine f) (initialState (r.env engine f) r.openCircuits) = .ok () s ∧
      t = traceOf (r.env engine f) s none ∧ Validator.ingressNodes engine.registry f = [ingress] ∧
        executionOrder? f ingress = some order ∧ t.steps = turns.flatMap Turn.all ∧
          List.Forall₂ (IsTurn f s.invoked t.steps) order turns ∧
            ∀ n ∈ f.nodes, (∃ x ∈ t.steps, x.node = n.id) ↔
              Finding.unreachable n.id ∉ Validator.check engine.registry f := by
  obtain ⟨hvalid, rfl⟩ := Engine.run_eq_ok_iff.1 hrun
  have valid : (r.env engine f).Valid := ⟨hbuiltin, hvalid⟩
  obtain ⟨ingress, order, hingress, horder, hstable⟩ := exists_order valid.flow
  obtain ⟨s, hs, hend, rfl⟩ := trace_execute
    (meets_simulate_along valid hingress horder hstable ⟨[], turned_start _⟩ (kept_turned valid hstable) _) htrace
  -- A run that was not cancelled has taken a turn for each node of the order.
  obtain ⟨l, ⟨turns, hturned⟩, hl⟩ := hend.resolve_left hfinished
  have hrecords : s.records = l.records := congrArg Ledger.records hl
  have hinvoked : s.invoked = l.invoked := congrArg Ledger.invoked hl
  have hsteps : (traceOf (r.env engine f) s none).steps = l.records.map (·.toStep s.documents) := by
    rw [← hrecords]
    rfl
  refine ⟨s, ingress, order, turns.map (Turn.map (·.toStep s.documents)), hs, rfl, hingress, horder, ?_, ?_,
    fun n hn => ?_⟩
  · rw [hsteps, hturned.records, List.map_flatMap, List.flatMap_map]
    simp
  · rw [hsteps, hinvoked, List.forall₂_map_right_iff]
    exact hturned.took.imp fun _ _ htook => hturned.isTurn s.documents htook
  · rw [hvalid.unreachable_mem_check_iff hingress hn, not_not, Flow.mem_reachable_iff, hsteps]
    constructor
    · rintro ⟨x, hx, hid⟩
      obtain ⟨y, hy, rfl⟩ := List.mem_map.1 hx
      obtain ⟨m, hm, hmid⟩ := List.mem_map.1 (hturned.visited y hy)
      have hreached := ((hstable.mem_iff m).1 hm).2
      rw [hmid] at hreached
      exact hid ▸ hreached
    · intro hreached
      have hmem : n ∈ order := (hstable.mem_iff n).2 ⟨hn, hreached⟩
      obtain ⟨turn, hturn, htook⟩ := exists_mem_of_forall₂ hturned.took hmem
      refine ⟨turn.own.toStep s.documents, List.mem_map_of_mem ?_, htook.node⟩
      rw [hturned.records]
      exact List.mem_flatMap.2 ⟨turn, hturn, by simp [Turn.all]⟩

/-- A run of the relay is not cancelled, and its handler tries the second call again. -/
def relayRun : Request where
  input := .object []
  execution := "run"

theorem steps_of_relayRun : ∃ report t s ingress order turns, Engine.run {} relay relayRun = .ok report ∧
    report.trace = .ok t ∧ t.steps.length = 8 ∧ executionOrder? relay ingress = some order ∧
      t.steps = turns.flatMap Turn.all ∧ List.Forall₂ (IsTurn relay (s : State).invoked t.steps) order turns ∧
        ∀ n ∈ relay.nodes, ∃ x ∈ t.steps, x.node = n.id := by
  have hok : isOk (simulate relayEnv) (initialState relayEnv []) = true := by
    decide +kernel
  have hend : (endState (simulate relayEnv) (initialState relayEnv [])).status ≠ .cancelled ∧
      (endState (simulate relayEnv) (initialState relayEnv [])).records.length = 8 := by
    decide +kernel
  have hreachable : ∀ n ∈ relay.nodes, Finding.unreachable n.id ∉ Validator.check .builtin relay := by
    decide
  have hs := eq_ok_endState hok
  generalize endState (simulate relayEnv) (initialState relayEnv []) = s at hend hs
  obtain ⟨hfinished, hlength⟩ := hend
  have htrace : (execute (relayRun.env {} relay) relayRun.openCircuits).trace =
      .ok (traceOf (relayRun.env {} relay) s none) := trace_execute_of_ok hs
  have hrun : Engine.run {} relay relayRun = .ok (execute (relayRun.env {} relay) relayRun.openCircuits) :=
    Engine.run_eq_ok_iff.2 ⟨valid_relayEnv.flow, rfl⟩
  obtain ⟨s', ingress, order, turns, -, -, -, horder, hsteps, hturns, hreached⟩ :=
    steps_of_run rfl hrun htrace hfinished
  refine ⟨_, _, s', ingress, order, turns, hrun, htrace, ?_, horder, hsteps, hturns, fun n hn =>
    (hreached n hn).2 (hreachable n hn)⟩
  exact (List.length_map _).trans hlength

end IntegrationFlow.Run
