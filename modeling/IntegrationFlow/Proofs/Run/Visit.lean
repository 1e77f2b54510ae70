import IntegrationFlow.Proofs.Run.Work

/-!
# What a visit does

`Visited` says everything that the visit of a node does to the ledger of a run: which record it adds, what it makes the
edges of the node carry, and which failures stay unrecovered. The key fact is `meets_visit`: in a valid flow every visit
is one of these and never a fault. What holds of a whole run follows from it by induction on the order.
-/

namespace IntegrationFlow.Run

open Simulation Sim

/-! ### Records -/

/-- A record tells of a node and its outcome. -/
structure Record.Tells (r : Record) (n : Node) (o : NodeOutcome) : Prop where
  node : r.node = n.id
  type : r.type = n.type
  status : r.status = if o.failure?.isSome then .error else .success
  input : r.input? = some (.input n.id)
  retryCount : r.retryCount = o.retryCount

/-- A record of a failure is an error. -/
theorem Record.Tells.status_of_failure {r : Record} {n : Node} {o : NodeOutcome} (h : r.Tells n o)
    (hfailed : o.failure? ≠ none) : r.status = .error := by
  obtain ⟨f, hf⟩ := Option.ne_none_iff_exists'.1 hfailed
  rw [h.status, hf]
  rfl

/-- A record that is no error tells of a success. -/
theorem Record.Tells.failure?_eq_none {r : Record} {n : Node} {o : NodeOutcome} (h : r.Tells n o)
    (hstatus : r.status ≠ .error) : o.failure? = none := by
  rw [h.status] at hstatus
  cases hcase : o.failure? with
  | none => rfl
  | some f =>
    rw [hcase] at hstatus
    exact absurd rfl hstatus

namespace Ledger

/-- The ledger with more records. -/
def addRecords (l : Ledger) (rs : List Record) : Ledger :=
  { l with records := l.records ++ rs }

@[simp] theorem addRecords_nil (l : Ledger) : l.addRecords [] = l := by
  simp [addRecords]

theorem addRecords_addRecords (l : Ledger) (rs rs' : List Record) :
    (l.addRecords rs).addRecords rs' = l.addRecords (rs ++ rs') := by
  simp [addRecords]

end Ledger

/-- Recording an outcome adds a record that tells of it. -/
theorem meets_recordOutcome (env : Env) (n : Node) (o : NodeOutcome) (p : Place) (s : State) :
    Meets (recordOutcome env n o p) s fun _ s' => ∃ r : Record, r.Tells n o ∧ s'.ledger = s.ledger.addRecords [r] :=
  (meets_record env _).mono fun _ _ h => ⟨_, ⟨rfl, rfl, rfl, rfl, rfl⟩, h⟩

/-! ### Error handlers -/

/-- The records of attempts on a node, which had the input of its first one. -/
def AreAttempts (origin : Node) (again : List Record) : Prop :=
  ∀ r ∈ again, r.node = origin.id ∧ r.type = origin.type ∧ r.input? = some (.input origin.id)

/-- Of several attempts only the last one can be a success, and the outcome is a success when it is. -/
structure Settles (again : List Record) (o : NodeOutcome) : Prop where
  failed : ∀ r ∈ again.dropLast, r.status = .error
  verdict : ∀ r, again.getLast? = some r → (r.status = .success ↔ o.failure? = none)

/-- No attempts settle nothing. -/
theorem settles_nil (o : NodeOutcome) : Settles [] o :=
  ⟨by simp, by simp⟩

/-- What a node has done while it was carried out: the records of the nodes that it has tried again, and its outcome. -/
structure Attended (env : Env) (n : Node) (incoming : Signal) (invoked : List (String × Signal)) (again : List Record)
    (o : NodeOutcome) : Prop where
  /-- Only an error handler absorbs, and only a failure that came in. -/
  absorbed : o.absorbed = true → n.type = Kind.errorHandler.name ∧ incoming.failure?.isSome = true ∧ o.failure? = none
  /-- Only an error handler tries nodes again, and only one that had an input. -/
  retried : ∀ r ∈ again, n.type = Kind.errorHandler.name ∧ incoming.failure?.isSome = true ∧
    ∃ own, invoked.lookup r.node = some own
  /-- A node that was tried again successfully is what makes its handler absorb the failure. -/
  repaired : ∀ r ∈ again, r.status = .success → o.absorbed = true ∧ o.exits = .only handledPort
  /-- A handler counts its attempts. -/
  count : n.type = Kind.errorHandler.name → o.retryCount = again.length
  settles : Settles again o
  /-- The attempts are made on the node at which the failure arose, and are not more than the handler allows. -/
  attempts : again ≠ [] → ∃ c f origin, Kind.errorHandler.read n.data.config = .fits (.errorHandler c) ∧
    incoming.failure? = some f ∧ origin ∈ env.flow.nodes ∧ origin.id = f.node ∧ AreAttempts origin again ∧
      again.length ≤ (strategyOf env.flow.config c).2

/-- A node that has tried no other node again. -/
private theorem attended_alone {env : Env} {n : Node} {incoming : Signal} {invoked : List (String × Signal)}
    {o : NodeOutcome}
    (absorbed : o.absorbed = true →
      n.type = Kind.errorHandler.name ∧ incoming.failure?.isSome = true ∧ o.failure? = none)
    (count : n.type = Kind.errorHandler.name → o.retryCount = 0) : Attended env n incoming invoked [] o where
  absorbed
  retried := by simp
  repaired := by simp
  count := by simpa using count
  settles := settles_nil o
  attempts := fun h => absurd rfl h

/-- An outcome that absorbs nothing is all that there is to say about a node that has tried no other node again. -/
private theorem attended_of_not_absorbed {env : Env} {n : Node} {incoming : Signal} {invoked : List (String × Signal)}
    {o : NodeOutcome} (h : o.absorbed = false) (count : n.type = Kind.errorHandler.name → o.retryCount = 0) :
    Attended env n incoming invoked [] o := by
  refine attended_alone (fun habsorbed => ?_) count
  rw [h] at habsorbed
  cases habsorbed

/-- A failure of a node has arisen there, or where one has arisen that came in. An error handler only passes failures
on. -/
def Traceable (n : Node) (incoming : Signal) (o : NodeOutcome) : Prop :=
  ∀ f, o.failure? = some f → (f.node = n.id ∧ n.type ≠ Kind.errorHandler.name) ∨
    ∃ g, incoming.failure? = some g ∧ f.node = g.node

/-- From a state, a node is carried out without a fault, and does not touch the ledger but for its attempts on others. -/
def Serves (env : Env) (n : Node) (incoming : Signal) (x : Sim NodeOutcome) (s : State) : Prop :=
  Meets x s fun o s' => ∃ again, Attended env n incoming s.invoked again o ∧ Traceable n incoming o ∧
    s'.ledger = s.ledger.addRecords again

/-- A node is done that has tried no other node again. -/
private theorem serves_pure {env : Env} {n : Node} {incoming : Signal} {o : NodeOutcome} {s : State}
    (hattended : Attended env n incoming s.invoked [] o) (htraceable : Traceable n incoming o) :
    Serves env n incoming (pure o) s :=
  meets_pure ⟨[], hattended, htraceable, by rw [Ledger.addRecords_nil]⟩

/-- A handler passes on the failure that came in. -/
private theorem serves_passOn {env : Env} {n : Node} {incoming : Signal} {f : Failure} (hf : incoming.failure? = some f)
    (s : State) : Serves env n incoming (pure (passOn f)) s :=
  serves_pure (attended_of_not_absorbed rfl fun _ => rfl) fun _ hg =>
    .inr ⟨f, hf, congrArg Failure.node (Option.some.inj hg).symm⟩

/-- What a handler has done when it has tried a node again, at most `remaining` times after it had done so before: the
records of the attempts, and its outcome. -/
structure Retrying.Tried (r : Retrying) (remaining done : Nat) (again : List Record) (o : NodeOutcome) : Prop where
  attempts : AreAttempts r.origin again
  absorbed : o.absorbed = true → o.failure? = none
  repaired : ∀ x ∈ again, x.status = .success → o.absorbed = true ∧ o.exits = .only handledPort
  origin : ∀ f, o.failure? = some f → f.node = r.origin.id
  count : o.retryCount = done + again.length
  bound : again.length ≤ remaining
  settles : Settles again o
  /-- Without an attempt there is no success. -/
  vain : again = [] → o.failure? ≠ none

/-- The record of an attempt that has failed is no success, so only the attempts after it matter. -/
private theorem Retrying.Tried.cons {r : Retrying} {remaining done : Nat} {again : List Record} {o first : NodeOutcome}
    {x : Record} (h : r.Tried remaining (done + 1) again o) (hx : x.Tells r.origin first)
    (hfailed : first.failure? ≠ none) : r.Tried (remaining + 1) done (x :: again) o := by
  have herror : x.status = .error := hx.status_of_failure hfailed
  refine ⟨fun y hy => ?_, h.absorbed, fun y hy hsuccess => ?_, h.origin, ?_, ?_, ⟨?_, ?_⟩, by simp⟩
  · rcases List.mem_cons.1 hy with rfl | hy
    · exact ⟨hx.node, hx.type, hx.input⟩
    · exact h.attempts y hy
  · rcases List.mem_cons.1 hy with rfl | hy
    · rw [herror] at hsuccess
      cases hsuccess
    · exact h.repaired y hy hsuccess
  · rw [h.count, List.length_cons]
    omega
  · have := h.bound
    rw [List.length_cons]
    omega
  · cases again with
    | nil => simp
    | cons y again =>
      rw [List.dropLast_cons_cons, List.forall_mem_cons]
      exact ⟨herror, h.settles.failed⟩
  · cases again with
    | nil =>
      intro y hy
      obtain rfl : x = y := Option.some.inj hy
      simp [herror, h.vain rfl]
    | cons y again =>
      rw [List.getLast?_cons_cons]
      exact h.settles.verdict

private theorem Retrying.meets_giveUp (r : Retrying) (remaining done waited : Nat) {last : Failure}
    (hlast : last.node = r.origin.id) (s : State) :
    Meets (r.finish (passOn last) waited done) s fun o s' =>
      ∃ again, r.Tried remaining done again o ∧ s'.ledger = s.ledger.addRecords again := by
  unfold Retrying.finish
  refine (quiet_advance _ s).bind fun _ s' hs' => meets_pure ⟨[], ?_, ?_⟩
  · refine ⟨by simp [AreAttempts], fun h => ?_, by simp, fun f hf => ?_, rfl, Nat.zero_le _, settles_nil _, fun _ h => ?_⟩
    · cases h
    · obtain rfl : last = f := Option.some.inj hf
      exact hlast
    · cases h
  · rw [hs'.1, Ledger.addRecords_nil]

/-- However often a handler tries a node again. -/
theorem Retrying.meets_attempts {env : Env} (valid : env.Valid) (r : Retrying) (horigin : r.origin ∈ env.flow.nodes)
    (remaining done waited : Nat) {last : Failure} (hlast : last.node = r.origin.id) (s : State) :
    Meets (r.attempts env remaining done waited last) s fun o s' =>
      ∃ again, r.Tried remaining done again o ∧ s'.ledger = s.ledger.addRecords again := by
  induction remaining generalizing done waited last s with
  | zero => exact r.meets_giveUp 0 done waited hlast s
  | succ remaining ih =>
    unfold Retrying.attempts
    refine meets_get_bind ?_
    split
    · exact r.meets_giveUp _ done waited hlast s
    · refine (quiet_suspend env _ s).bind fun _ s₁ h₁ => (quiet_publish env _ s₁).bind fun _ s₂ h₂ => ?_
      refine (valid.quiet_reinvoke horigin _ s₂).bind fun o s₃ h₃ => ?_
      have hsame : s₃.ledger = s.ledger := by rw [h₃.1, h₂.1, h₁.1]
      split
      · next output hresult =>
        refine (quiet_store _ _ s₃).bind fun _ s₄ h₄ => (meets_recordOutcome env r.origin o _ s₄).bind ?_
        rintro _ s₅ ⟨x, hx, h₅⟩
        refine (quiet_advance _ s₅).bind fun _ s₆ h₆ => meets_pure ⟨[x], ?_, ?_⟩
        · have hsuccess : x.status = .success := by simp [hx.status, NodeOutcome.failure?, hresult]
          refine ⟨?_, fun _ => rfl, fun _ _ _ => ⟨rfl, rfl⟩, fun f hf => ?_, rfl, by simp, ⟨by simp, ?_⟩, by simp⟩
          · simpa [AreAttempts] using ⟨hx.node, hx.type, hx.input⟩
          · cases hf
          · rintro y hy
            obtain rfl : x = y := Option.some.inj hy
            exact iff_of_true hsuccess rfl
        · rw [h₆.1, h₅, h₄.1, hsame]
      · next f hresult =>
        have hfailed : o.failure? = some f := by simp [NodeOutcome.failure?, hresult]
        refine (meets_recordOutcome env r.origin o _ s₃).bind ?_
        rintro _ s₄ ⟨x, hx, h₄⟩
        refine (ih _ _ (h₃.2.origin f hfailed) s₄).mono ?_
        rintro final s₅ ⟨again, htried, h₅⟩
        refine ⟨x :: again, htried.cons hx (by simp [hfailed]), ?_⟩
        rw [h₅, h₄, hsame, Ledger.addRecords_addRecords]
        rfl

/-- The node at which a failure arose is tried again if it ever had an input. -/
theorem serves_retryOrigin {env : Env} (valid : env.Valid) {n : Node} (hn : n.type = Kind.errorHandler.name)
    {c : ErrorHandlerConfig} (hc : Kind.errorHandler.read n.data.config = .fits (.errorHandler c)) {f : Failure}
    {incoming : Signal} (hf : incoming.failure? = some f) {maxRetries : Nat}
    (hmax : maxRetries = (strategyOf env.flow.config c).2) (s : State) :
    Serves env n incoming (retryOrigin env n c f maxRetries) s := by
  have hcame : incoming.failure?.isSome = true := by rw [hf]; rfl
  unfold retryOrigin
  refine (quiet_durationOf env n s).bind fun base s₁ h₁ => ?_
  have hinvoked : s₁.invoked = s.invoked := congrArg Ledger.invoked h₁.1
  rw [← h₁.1, ← hinvoked]
  split
  · exact serves_passOn hf s₁
  · next origin horigin =>
    refine meets_get_bind ?_
    split
    · exact serves_passOn hf s₁
    · next hsome =>
      rw [Option.isNone_iff_eq_none] at hsome
      obtain ⟨own, hown⟩ := Option.ne_none_iff_exists'.1 hsome
      obtain ⟨hmem, hid⟩ := Flow.mem_of_node?_eq_some horigin
      refine (Retrying.meets_attempts valid ⟨n, c, origin, base⟩ hmem _ _ _ hid.symm s₁).mono ?_
      rintro o s₂ ⟨again, htried, h₂⟩
      refine ⟨again, ⟨fun h => ⟨hn, hcame, htried.absorbed h⟩, fun r hr => ⟨hn, hcame, own, ?_⟩, htried.repaired,
        fun _ => by rw [htried.count, Nat.zero_add], htried.settles,
        fun _ => ⟨c, f, origin, hc, hf, hmem, hid, htried.attempts, hmax ▸ htried.bound⟩⟩,
        fun g hg => .inr ⟨f, hf, (htried.origin g hg).trans hid⟩, h₂⟩
      rw [(htried.attempts r hr).1]
      exact hown

/-- A handler takes care of the failure that comes in, and of nothing else. -/
theorem serves_handle {env : Env} (valid : env.Valid) {n : Node} (hn : n.type = Kind.errorHandler.name)
    {c : ErrorHandlerConfig} (hc : Kind.errorHandler.read n.data.config = .fits (.errorHandler c)) (b : Birth) (input : Cell)
    (incoming : Signal) (s : State) : Serves env n incoming (handle env n c b input incoming) s := by
  unfold handle
  split
  · refine serves_pure (attended_of_not_absorbed rfl fun _ => rfl) fun f hf => ?_
    cases hf
  · next f hf =>
    dsimp only
    split
    · refine serves_pure (attended_alone (fun _ => ⟨hn, by rw [hf]; rfl, rfl⟩) fun _ => rfl) fun g hg => ?_
      cases hg
    · split
      · exact serves_retryOrigin valid hn hc hf rfl s
      · exact serves_passOn hf s

/-- The time that a node takes is charged in the end. -/
private theorem Serves.timed {env : Env} {n : Node} {incoming : Signal} {x : Sim NodeOutcome} {s : State}
    (h : Serves env n incoming x s) : Serves env n incoming (x >>= finishTiming env n) s := by
  refine Meets.bind h ?_
  rintro o s₁ ⟨again, hattended, htraceable, h₁⟩
  refine (quiet_finishTiming env n o s₁).mono ?_
  rintro _ s₂ ⟨h₂, d, rfl⟩
  refine ⟨again, ⟨hattended.absorbed, hattended.retried, hattended.repaired, hattended.count, ?_, hattended.attempts⟩,
    htraceable, h₂.trans h₁⟩
  exact ⟨hattended.settles.failed, hattended.settles.verdict⟩

/-- A node that is no handler does its work and nothing else. -/
private theorem serves_work {env : Env} {n : Node} (hother : n.type ≠ Kind.errorHandler.name) (c : Config) (b : Birth)
    (input : Cell) (incoming : Signal) (s : State) : Serves env n incoming (work env n c b input) s := by
  refine (quiet_work env n c b input s).mono ?_
  rintro o s₁ ⟨h₁, hown⟩
  exact ⟨[], attended_of_not_absorbed hown.absorbed fun h => absurd h hother,
    fun f hf => .inl ⟨hown.origin f hf, hother⟩, by rw [h₁, Ledger.addRecords_nil]⟩

/-- Every node of a valid flow is carried out without a fault. -/
theorem serves_invoke {env : Env} (valid : env.Valid) {n : Node} (hn : n ∈ env.flow.nodes) (incoming : Signal)
    (s : State) : Serves env n incoming (invoke env n incoming) s := by
  unfold invoke
  refine (quiet_read _ s).bind fun input s₁ h₁ => (valid.quiet_semanticsOf hn s₁).bind ?_
  rintro _ s₂ ⟨h₂, c, rfl, hkind, hread⟩
  have hsame : s₂.ledger = s.ledger := h₂.trans h₁.1
  have hinvoked : s₂.invoked = s.invoked := congrArg Ledger.invoked hsame
  rw [← hsame, ← hinvoked]
  cases c with
  | errorHandler c => exact (serves_handle valid hkind hread _ input incoming s₂).timed
  | ingress _ | transform _ | connector _ | serviceCall _ | condition _ | database _ | serviceBox _ =>
    exact (serves_work (by simp [hkind, Config.kind, Kind.name]) _ _ input incoming s₂).timed

/-! ### The edges of a node -/

/-- What an edge through a port carries when its node is done. -/
def emission (o : NodeOutcome) (payload : Place) (failure? : Option Failure) (port : Port) : Signal :=
  match isSelected o port with
  | .ok true => signalAt payload failure? port
  | _ => .inactive

@[simp] theorem failure?_signalAt (payload : Place) (failure? : Option Failure) (port : Port) :
    (signalAt payload failure? port).failure? = failure? := by
  unfold signalAt
  split <;> rfl

/-- An edge carries the failure or none. -/
theorem failure?_emission_eq_none (o : NodeOutcome) (payload : Place) (port : Port) :
    (emission o payload none port).failure? = none := by
  unfold emission
  split
  · exact failure?_signalAt payload none port
  · rfl

/-- A failure that arises at a node goes on from there. -/
theorem outstanding_of_failure {o : NodeOutcome} {f : Failure} (h : o.failure? = some f) (incoming : Signal) :
    outstanding o incoming = some f := by
  unfold outstanding
  cases hresult : o.result with
  | error g =>
    rw [NodeOutcome.failure?, hresult] at h
    exact h
  | ok output =>
    rw [NodeOutcome.failure?, hresult] at h
    cases h

/-- From a successful node the failure goes on that came in, unless it was absorbed. -/
theorem outstanding_of_success {o : NodeOutcome} (h : o.failure? = none) (incoming : Signal) :
    outstanding o incoming = if o.absorbed then none else incoming.failure? := by
  unfold outstanding
  cases hresult : o.result with
  | error f =>
    rw [NodeOutcome.failure?, hresult] at h
    cases h
  | ok output => rfl

/-- What the edges of a node carry after its visit; no other edge is touched. -/
structure Routed (n : Node) (o : NodeOutcome) (failure? : Option Failure) (es : List Edge)
    (before after : List (String × Signal)) (emitted : Bool) : Prop where
  others : ∀ id, id ∉ es.map (·.id) → after.lookup id = before.lookup id
  own : ∀ e ∈ es, ∃ port, n.output? e.sourcePort? = some port ∧
    after.lookup e.id = some (emission o (.output n.id) failure? port)
  carries : emitted = true → ∃ e ∈ es, ∃ signal, after.lookup e.id = some signal ∧ signal.failure? = failure?

theorem meets_setSignals {n : Node} (o : NodeOutcome) (failure? : Option Failure) {es : List Edge}
    (hports : ∀ e ∈ es, ∃ port, n.output? e.sourcePort? = some port) (hnodup : (es.map (·.id)).Nodup) (s : State) :
    Meets (setSignals n o (.output n.id) failure? es) s fun emitted s' =>
      ∃ signals, Routed n o failure? es s.signals signals emitted ∧ s'.ledger = { s.ledger with signals } := by
  induction es generalizing s with
  | nil => exact meets_pure ⟨s.signals, ⟨fun _ _ => rfl, by simp, by simp⟩, rfl⟩
  | cons e es ih =>
    obtain ⟨port, hport⟩ := hports e List.mem_cons_self
    rw [List.map_cons, List.nodup_cons] at hnodup
    unfold setSignals
    rw [hport]
    refine (quiet_ofMishap (isSelected o port) s).bind fun selected s₁ h₁ => ?_
    -- What is set is what the outcome emits, for the test of the port has no mishap.
    have hemission : (if selected then signalAt (.output n.id) failure? port else .inactive) =
        emission o (.output n.id) failure? port := by
      unfold emission
      rw [h₁.2]
      cases selected <;> rfl
    rw [hemission]
    refine meets_modify_bind ?_
    refine (ih (fun e' he' => hports e' (List.mem_cons_of_mem _ he')) hnodup.2 _).bind ?_
    rintro later s₂ ⟨signals, ⟨hothers, hown, hcarries⟩, h₂⟩
    have hsignals : s₁.signals = s.signals := congrArg Ledger.signals h₁.1
    -- The edges that come later have other ids and leave this signal alone.
    have hfirst : signals.lookup e.id = some (emission o (.output n.id) failure? port) := by
      rw [hothers e.id hnodup.1, List.lookup_cons_self]
    refine meets_pure ⟨signals, ⟨fun id hid => ?_, fun e' he' => ?_, fun hemitted => ?_⟩, ?_⟩
    · rw [List.map_cons, List.mem_cons, not_or] at hid
      have hne : (id == e.id) = false := by simpa using hid.1
      rw [hothers id hid.2, List.lookup_cons, hne]
      exact congrArg (List.lookup id) hsignals
    · rcases List.mem_cons.1 he' with rfl | he'
      · exact ⟨port, hport, hfirst⟩
      · exact hown e' he'
    · rcases Bool.or_eq_true_iff.1 hemitted with hselected | hlater
      · refine ⟨e, List.mem_cons_self, _, hfirst, ?_⟩
        rw [← hemission, if_pos hselected, failure?_signalAt]
      · obtain ⟨e', he', hsignal⟩ := hcarries hlater
        exact ⟨e', List.mem_cons_of_mem _ he', hsignal⟩
    · rw [h₂]
      exact congrArg (fun l : Ledger => { l with signals := signals }) h₁.1

/-- The ports of the edges of a node are found. -/
theorem Env.Valid.exists_output {env : Env} (valid : env.Valid) {n : Node} (hn : n ∈ env.flow.nodes) {e : Edge}
    (he : e ∈ env.flow.outgoing n.id) : ∃ port, n.output? e.sourcePort? = some port := by
  obtain ⟨hmem, hsource⟩ := Flow.mem_outgoing.1 he
  obtain ⟨source, target, hfound, -, hports⟩ := valid.flow.joins hmem
  rw [hsource, valid.flow.node?_eq_some hn] at hfound
  obtain rfl : n = source := Option.some.inj hfound
  obtain ⟨port, -, hport, -⟩ := Validator.portFindings_eq_nil_iff.1 hports
  exact ⟨port, hport⟩

theorem Env.Valid.nodup_outgoing {env : Env} (valid : env.Valid) (id : String) :
    ((env.flow.outgoing id).map (·.id)).Nodup :=
  (List.filter_sublist.map _).nodup valid.flow.nodup_edgeIds

/-- The failure that goes on from a node is on one of its edges, or stays unrecovered. -/
theorem meets_route {env : Env} (valid : env.Valid) {n : Node} (hn : n ∈ env.flow.nodes) (o : NodeOutcome)
    (incoming : Signal) (s : State) : Meets (route env n o incoming) s fun _ s' => ∃ signals emitted,
      Routed n o (outstanding o incoming) (env.flow.outgoing n.id) s.signals signals emitted ∧
        s'.ledger = { s.ledger with
          signals
          unrecovered := s.unrecovered ++ if emitted then [] else (outstanding o incoming).toList } := by
  unfold route
  refine (meets_setSignals o _ (fun e he => valid.exists_output hn he) (valid.nodup_outgoing n.id) s).bind ?_
  rintro emitted s₁ ⟨signals, hrouted, h₁⟩
  cases hfailure : outstanding o incoming with
  | none =>
    rw [hfailure] at hrouted
    refine meets_pure ⟨signals, emitted, hrouted, ?_⟩
    rw [h₁]
    simp [State.ledger]
  | some f =>
    rw [hfailure] at hrouted
    dsimp only
    split
    · next hemitted => exact meets_pure ⟨signals, emitted, hrouted, by rw [h₁]; simp [hemitted, State.ledger]⟩
    · next hlost =>
      have hunrecovered : s₁.unrecovered = s.unrecovered := congrArg Ledger.unrecovered h₁
      refine ⟨signals, emitted, hrouted, ?_⟩
      rw [Bool.not_eq_true] at hlost
      rw [hlost, ← hunrecovered]
      exact congrArg (fun l : Ledger => { l with unrecovered := s₁.unrecovered ++ [f] }) h₁

/-! ### The visit -/

namespace Ledger

/-- The failure that an edge carries. -/
def failureOn (l : Ledger) (e : Edge) : Option Failure :=
  (l.signals.lookup e.id).bind Signal.failure?

theorem failureOn_of_lookup {l : Ledger} {e : Edge} {signal : Signal} (h : l.signals.lookup e.id = some signal) :
    l.failureOn e = signal.failure? := by
  rw [failureOn, h, Option.bind_some]

/-- An edge that carries a failure was set. -/
theorem lookup_ne_none {l : Ledger} {e : Edge} (h : l.failureOn e ≠ none) : l.signals.lookup e.id ≠ none := by
  intro hnone
  rw [failureOn, hnone] at h
  exact h rfl

end Ledger

/-- What the visit of a node does to the ledger. -/
inductive Visited (env : Env) (n : Node) (before after : Ledger) : Prop
  /-- The node is passed over. -/
  | skipped (r : Record) (node : r.node = n.id) (status : r.status = .skipped)
    (calm : ∀ e ∈ env.flow.incoming n.id, before.failureOn e = none)
    (others : ∀ id, id ∉ (env.flow.outgoing n.id).map (·.id) → after.signals.lookup id = before.signals.lookup id)
    (dead : ∀ e ∈ env.flow.outgoing n.id, after.signals.lookup e.id = some .inactive)
    (rest : after = { before.addRecords [r] with signals := after.signals })
    (type : r.type = n.type) (count : r.retryCount = 0)
  /-- The node is carried out, or cannot be for want of an input. -/
  | carried (o : NodeOutcome) (incoming : Signal) (again : List Record) (r : Record) (emitted : Bool)
    (came : incoming.failure? = none ↔ ∀ e ∈ env.flow.incoming n.id, before.failureOn e = none)
    (invoked : after.invoked = before.invoked ∨ after.invoked = (n.id, incoming) :: before.invoked)
    (entered : o.absorbed = true → after.invoked = (n.id, incoming) :: before.invoked)
    (attended : Attended env n incoming after.invoked again o)
    (tells : r.Tells n o)
    (routed : Routed n o (outstanding o incoming) (env.flow.outgoing n.id) before.signals after.signals emitted)
    (rest : after = { before.addRecords (again ++ [r]) with
      signals := after.signals
      invoked := after.invoked
      unrecovered := before.unrecovered ++ if emitted then [] else (outstanding o incoming).toList })
    (fetched : ∀ f, incoming.failure? = some f → ∃ e ∈ env.flow.incoming n.id, before.failureOn e = some f)
    (tried : again ≠ [] → after.invoked = (n.id, incoming) :: before.invoked)
    (origin : ∀ f, o.failure? = some f →
      (f.node = n.id ∧ (n.type = Kind.errorHandler.name → after.invoked = before.invoked)) ∨
        ∃ g, incoming.failure? = some g ∧ f.node = g.node)

/-- Recording an outcome and handing it on. -/
theorem meets_conclude {env : Env} (valid : env.Valid) {n : Node} (hn : n ∈ env.flow.nodes) (o : NodeOutcome)
    (incoming : Signal) (s : State) : Meets (conclude env n o incoming) s fun _ s' => ∃ r signals emitted,
      r.Tells n o ∧
        Routed n o (outstanding o incoming) (env.flow.outgoing n.id) s.signals signals emitted ∧
          s'.ledger = { s.ledger.addRecords [r] with
            signals
            unrecovered := s.unrecovered ++ if emitted then [] else (outstanding o incoming).toList } := by
  unfold conclude storeOutput
  refine (quiet_store _ _ s).bind fun _ s₁ h₁ => (meets_recordOutcome env n o _ s₁).bind ?_
  rintro _ s₂ ⟨r, hr, h₂⟩
  have hsame : s₂.ledger = s.ledger.addRecords [r] := by rw [h₂, h₁.1]
  have hsignals : s₂.signals = s.signals := congrArg Ledger.signals hsame
  have hunrecovered : s₂.unrecovered = s.unrecovered := congrArg Ledger.unrecovered hsame
  refine (meets_route valid hn o incoming s₂).mono ?_
  rintro _ s₃ ⟨signals, emitted, hrouted, h₃⟩
  rw [hsignals] at hrouted
  exact ⟨r, signals, emitted, hr, hrouted, by rw [h₃, hsame, hunrecovered]⟩

theorem meets_setInactive (es : List Edge) (s : State) :
    Meets (es.forM fun e => setSignal e.id .inactive) s fun _ s' => ∃ signals,
      (∀ id, id ∉ es.map (·.id) → signals.lookup id = s.signals.lookup id) ∧
        (∀ e ∈ es, signals.lookup e.id = some .inactive) ∧ s'.ledger = { s.ledger with signals } := by
  induction es generalizing s with
  | nil => exact meets_pure ⟨s.signals, fun _ _ => rfl, by simp, rfl⟩
  | cons e es ih =>
    unfold List.forM
    refine meets_modify_bind ((ih _).mono ?_)
    rintro _ s₁ ⟨signals, hothers, hdead, h₁⟩
    refine ⟨signals, fun id hid => ?_, fun e' he' => ?_, h₁⟩
    · rw [List.map_cons, List.mem_cons, not_or] at hid
      have hne : (id == e.id) = false := by simpa using hid.1
      rw [hothers id hid.2, List.lookup_cons, hne]
    · rcases List.mem_cons.1 he' with rfl | he'
      -- An edge with the same id may come later; it sets the same signal.
      · by_cases hagain : e'.id ∈ es.map (·.id)
        · obtain ⟨e, he, hsame⟩ := List.mem_map.1 hagain
          exact hsame ▸ hdead e he
        · rw [hothers _ hagain, List.lookup_cons_self]
      · exact hdead e' he'

/-- A node is passed over when none of the edges to it carries anything. -/
theorem meets_skip {env : Env} {n : Node} {s : State}
    (calm : ∀ e ∈ env.flow.incoming n.id, s.ledger.failureOn e = none) :
    Meets (skip env n) s fun _ s' => Visited env n s.ledger s'.ledger := by
  unfold skip
  refine (meets_record env _).bind fun _ s₁ h₁ => (meets_setInactive _ s₁).mono ?_
  rintro _ s₂ ⟨signals, hothers, hdead, h₂⟩
  have hsignals : s₁.signals = s.signals := congrArg Ledger.signals h₁
  have hafter : s₂.ledger.signals = signals := congrArg Ledger.signals h₂
  rw [hsignals] at hothers
  refine .skipped { node := n.id, type := n.type, status := .skipped } rfl rfl calm (hafter ▸ hothers)
    (hafter ▸ hdead) ?_ rfl rfl
  rw [hafter, h₂, h₁]
  rfl

/-! ### The input of a node -/

theorem quiet_handOver (n : Node) (e : Edge) (payload : Place) : Quiet (handOver n e payload) := by
  unfold handOver
  refine (quiet_read _).bind fun v _ => Quiet.modify_bind (fun _ => rfl) ?_
  split
  · exact quiet_pure trivial
  · split
    · split
      · exact quiet_pure trivial
      · exact quiet_pure trivial
    · exact quiet_pure trivial

theorem quiet_handOverAll (n : Node) (live : List (Edge × Place)) : Quiet (handOverAll n live) := by
  induction live with
  | nil => exact quiet_pure trivial
  | cons first rest ih =>
    unfold handOverAll
    refine (quiet_handOver n _ _).bind fun r _ => ?_
    split
    · exact quiet_pure trivial
    · refine ih.bind fun rs _ => ?_
      split
      · exact quiet_pure trivial
      · exact quiet_pure trivial

theorem quiet_inputOf (n : Node) (t : NodeType) (live : List (Edge × Place)) : Quiet (inputOf n t live) := by
  unfold inputOf
  split
  · exact quiet_pure trivial
  · refine (quiet_handOverAll n live).bind fun r _ => ?_
    split
    · exact quiet_pure trivial
    · exact quiet_pure trivial

private theorem quiet_mapM {α β : Type} {f : α → Sim β} (hf : ∀ a, Quiet (f a)) (as : List α) : Quiet (as.mapM f) := by
  induction as with
  | nil => exact quiet_pure trivial
  | cons a as ih =>
    rw [List.mapM_cons]
    exact (hf a).bind fun _ _ => ih.bind fun _ _ => quiet_pure trivial

theorem quiet_rawInput (n : Node) (live : List (Edge × Place)) : Quiet (rawInput n live) :=
  (quiet_mapM (fun _ => quiet_read _) live).bind fun _ _ => quiet_pure trivial

/-- The failure that comes in is the first one of those that are merged. -/
private theorem failure?_merge (p : Place) (signals : List Signal) :
    (merge p signals).failure? = signals.findSome? Signal.failure? := by
  unfold merge
  dsimp only
  split <;> rfl

/-- A failure comes in exactly when one of the edges to the node carries a failure. -/
theorem failure?_merge_eq_none_iff (f : Flow) (l : Ledger) (n : Node) (p : Place) :
    (merge p ((liveEdges f l.signals n).map (·.2))).failure? = none ↔ ∀ e ∈ f.incoming n.id, l.failureOn e = none := by
  rw [failure?_merge, List.findSome?_eq_none_iff]
  simp only [liveEdges, List.mem_map, List.mem_filter, forall_exists_index, and_imp, Ledger.failureOn]
  constructor
  · intro h e he
    cases hsignal : l.signals.lookup e.id with
    | none => rfl
    | some signal =>
      cases signal with
      | inactive => rfl
      | active payload f? => exact h _ (e, .active payload f?) e he (by rw [hsignal]; rfl) rfl rfl
      | failing payload f? => exact h _ (e, .failing payload f?) e he (by rw [hsignal]; rfl) rfl rfl
  · rintro h _ _ e he rfl - rfl
    have hcalm := h e he
    cases hsignal : l.signals.lookup e.id with
    | none => rfl
    | some signal =>
      rw [hsignal] at hcalm
      exact hcalm

/-- A failure that comes in is carried by one of the edges to the node. -/
theorem exists_failureOn_of_merge (f : Flow) (l : Ledger) (n : Node) (p : Place) (failure : Failure)
    (h : (merge p ((liveEdges f l.signals n).map (·.2))).failure? = some failure) :
    ∃ e ∈ f.incoming n.id, l.failureOn e = some failure := by
  rw [failure?_merge] at h
  obtain ⟨signal, hmem, hfailure⟩ := List.exists_of_findSome?_eq_some h
  obtain ⟨⟨e, _⟩, hlive, rfl⟩ := List.mem_map.1 hmem
  obtain ⟨_, he, heq⟩ := List.mem_map.1 (List.mem_filter.1 hlive).1
  cases heq
  refine ⟨e, he, ?_⟩
  cases hsignal : l.signals.lookup e.id with
  | none =>
    rw [hsignal] at hfailure
    cases hfailure
  | some signal =>
    rw [hsignal] at hfailure
    rw [Ledger.failureOn_of_lookup hsignal]
    exact hfailure

/-! ### All visits -/

/-- A node with an input is carried out on it. -/
theorem meets_proceed {env : Env} (valid : env.Valid) {n : Node} (hn : n ∈ env.flow.nodes) (input : Cell)
    {incoming : Signal} {before : Ledger} {s : State} (hbefore : s.ledger = before)
    (came : incoming.failure? = none ↔ ∀ e ∈ env.flow.incoming n.id, before.failureOn e = none)
    (fetched : ∀ f, incoming.failure? = some f → ∃ e ∈ env.flow.incoming n.id, before.failureOn e = some f) :
    Meets (proceed env n input incoming) s fun _ s' => Visited env n before s'.ledger := by
  subst hbefore
  unfold proceed
  refine (quiet_store _ _ s).bind fun _ s₁ h₁ => meets_modify_bind ?_
  refine Meets.bind (serves_invoke valid hn incoming _) ?_
  rintro o s₂ ⟨again, hattended, htraceable, h₂⟩
  refine (meets_conclude valid hn o incoming s₂).mono ?_
  rintro _ s₃ ⟨r, signals, emitted, hr, hrouted, h₃⟩
  -- The ledger between the work of the node and its conclusion.
  have hmid : s₂.ledger = { s.ledger with invoked := (n.id, incoming) :: s.invoked }.addRecords again := by
    rw [h₂]
    exact congrArg (fun l : Ledger => { l with invoked := (n.id, incoming) :: l.invoked }.addRecords again) h₁.1
  have hsignals : s₂.signals = s.signals := congrArg Ledger.signals hmid
  have hunrecovered : s₂.unrecovered = s.unrecovered := congrArg Ledger.unrecovered hmid
  have hafter : s₃.ledger.signals = signals := congrArg Ledger.signals h₃
  have hentered : s₃.ledger.invoked = (n.id, incoming) :: s.invoked := by
    rw [h₃, hmid]
    rfl
  have hinvoked : s₁.invoked = s.invoked := congrArg Ledger.invoked h₁.1
  rw [hsignals, ← hafter] at hrouted
  refine .carried o incoming again r emitted came (.inr hentered) (fun _ => hentered) ?_ hr hrouted ?_ fetched
    (fun _ => hentered) fun f hf => (htraceable f hf).imp_left fun h => ⟨h.1, fun hhandler => absurd hhandler h.2⟩
  · rw [hentered, ← hinvoked]
    exact hattended
  · rw [hentered, hafter, h₃, hmid, hunrecovered]
    simp [Ledger.addRecords, State.ledger]

/-- A node behind the ingress is passed over, carried out, or fails for want of an input. -/
theorem meets_visitInner {env : Env} (valid : env.Valid) {n : Node} (hn : n ∈ env.flow.nodes) (t : NodeType)
    (s : State) : Meets (visitInner env n t) s fun _ s' => Visited env n s.ledger s'.ledger := by
  have hcame := failure?_merge_eq_none_iff env.flow s.ledger n (.input n.id)
  have hfetched := exists_failureOn_of_merge env.flow s.ledger n (.input n.id)
  unfold visitInner
  refine meets_get_bind ?_
  split
  · next hnil =>
    have hlive : liveEdges env.flow s.ledger.signals n = [] := hnil
    rw [hlive] at hcame
    exact meets_skip (hcame.1 rfl)
  · dsimp only
    refine (quiet_inputOf n t _ s).bind fun input s₁ h₁ => ?_
    split
    · exact meets_proceed valid hn _ h₁.1 hcame hfetched
    · exact meets_crashed
    · next cause =>
      refine (quiet_rawInput n _ s₁).bind fun raw s₂ h₂ => (quiet_store _ _ s₂).bind fun _ s₃ h₃ => ?_
      refine (quiet_finishTiming env n _ s₃).bind ?_
      rintro _ s₄ ⟨h₄, d, rfl⟩
      -- What came in is stored and time is charged, none of which concerns the ledger.
      have hsame : s₄.ledger = s.ledger := by rw [h₄, h₃.1, h₂.1, h₁.1]
      have hsignals : s₄.signals = s.signals := congrArg Ledger.signals hsame
      have hunrecovered : s₄.unrecovered = s.unrecovered := congrArg Ledger.unrecovered hsame
      refine (meets_conclude valid hn _ _ s₄).mono ?_
      rintro _ s₅ ⟨r, signals, emitted, hr, hrouted, h₅⟩
      have hafter : s₅.ledger.signals = signals := congrArg Ledger.signals h₅
      have hinvoked : s₅.ledger.invoked = s.ledger.invoked := by rw [h₅, hsame]; rfl
      rw [hsignals, ← hafter] at hrouted
      refine .carried _ _ [] r emitted hcame (.inl hinvoked) (fun h => ?_) (attended_of_not_absorbed rfl fun _ => rfl) hr
        hrouted ?_ hfetched (fun h => absurd rfl h) fun f hf =>
          .inl ⟨(NodeOutcome.isOwn_failed n cause).origin f hf, fun _ => hinvoked⟩
      · cases h
      · rw [hinvoked, hafter, h₅, hsame, hunrecovered]
        simp [Ledger.addRecords, State.ledger]

/-- No edge leads to a node of an input type. -/
theorem Env.Valid.incoming_eq_nil {env : Env} (valid : env.Valid) {n : Node} (hn : n ∈ env.flow.nodes) {t : NodeType}
    (ht : env.engine.registry.find? n.type = some t) (hinput : (t.category == .input) = true) :
    env.flow.incoming n.id = [] := by
  obtain ⟨ingress, hingress, hentry⟩ := valid.flow.exists_ingress
  have hmem : n ∈ Validator.ingressNodes env.engine.registry env.flow := by
    refine List.mem_filter.2 ⟨hn, ?_⟩
    unfold Registry.isIngress
    rw [ht]
    exact hinput
  rw [hingress, List.mem_singleton] at hmem
  rw [hmem]
  exact hentry

/-- Every visit of a node of a valid flow is one of those that `Visited` describes, and no fault. -/
theorem meets_visit {env : Env} (valid : env.Valid) {n : Node} (hn : n ∈ env.flow.nodes) (s : State) :
    Meets (visit env n) s fun _ s' => Visited env n s.ledger s'.ledger := by
  obtain ⟨k, -, hfind⟩ := valid.exists_kind hn
  unfold visit
  refine meets_bind_of_ok (typeOf_eq_ok hfind s) ?_
  split
  · next hinput =>
    have hentry := valid.incoming_eq_nil hn hfind hinput
    refine meets_proceed valid hn _ rfl ?_ fun f hf => ?_
    · rw [hentry]
      exact ⟨fun _ e he => by simp at he, fun _ => rfl⟩
    · cases hf
  · exact meets_visitInner valid hn _ _

/-! ### What a visit leaves alone -/

/-- A visit does not change the status of a run. -/
theorem Visited.status_eq {env : Env} {n : Node} {before after : Ledger} (h : Visited env n before after) :
    after.status = before.status := by
  cases h with
  | skipped r node status calm others dead rest => rw [rest]; rfl
  | carried o incoming again r emitted came invoked entered attended tells routed rest => rw [rest]; rfl

/-- A visit takes no record away. -/
theorem Visited.mem_records {env : Env} {n : Node} {before after : Ledger} (h : Visited env n before after)
    {r : Record} (hr : r ∈ before.records) : r ∈ after.records := by
  cases h with
  | skipped x node status calm others dead rest =>
    rw [rest]
    exact List.mem_append_left _ hr
  | carried o incoming again x emitted came invoked entered attended tells routed rest =>
    rw [rest]
    exact List.mem_append_left _ hr

/-- What an edge of another node carries stays. -/
theorem Visited.lookup_eq {env : Env} (valid : env.Valid) {n : Node} {before after : Ledger}
    (h : Visited env n before after) {e : Edge} (he : e ∈ env.flow.edges) (hne : e.source ≠ n.id) :
    after.signals.lookup e.id = before.signals.lookup e.id := by
  have hother : e.id ∉ (env.flow.outgoing n.id).map (·.id) := by
    intro hmem
    obtain ⟨own, hown, hid⟩ := List.mem_map.1 hmem
    obtain ⟨hown, hsource⟩ := Flow.mem_outgoing.1 hown
    obtain rfl : own = e := List.inj_on_of_nodup_map valid.flow.nodup_edgeIds hown he hid
    exact hne hsource
  cases h with
  | skipped r node status calm others dead rest => exact others e.id hother
  | carried o incoming again r emitted came invoked entered attended tells routed rest =>
    exact routed.others e.id hother

theorem Visited.failureOn_eq {env : Env} (valid : env.Valid) {n : Node} {before after : Ledger}
    (h : Visited env n before after) {e : Edge} (he : e ∈ env.flow.edges) (hne : e.source ≠ n.id) :
    after.failureOn e = before.failureOn e := by
  unfold Ledger.failureOn
  rw [h.lookup_eq valid he hne]

/-- With what another node was invoked stays known. -/
theorem Visited.invoked_lookup_eq {env : Env} {n : Node} {before after : Ledger} (h : Visited env n before after)
    {id : String} (hne : id ≠ n.id) : after.invoked.lookup id = before.invoked.lookup id := by
  cases h with
  | skipped r node status calm others dead rest => rw [rest]; rfl
  | carried o incoming again r emitted came invoked entered attended tells routed rest =>
    rcases invoked with hsame | hentered
    · rw [hsame]
    · have hbeq : (id == n.id) = false := by simpa using hne
      rw [hentered, List.lookup_cons, hbeq]

end IntegrationFlow.Run
