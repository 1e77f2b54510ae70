import IntegrationFlow.Proofs.Flow.Mapping
import IntegrationFlow.Proofs.Json.Plain
import IntegrationFlow.Proofs.NodeType.Latency
import IntegrationFlow.Proofs.Run.Work
import IntegrationFlow.Table
import Mathlib.Algebra.Ring.Int.Defs
import Mathlib.Algebra.Ring.Nat

/-!
# The effect of a computation on a run

`Effect` says what a computation adds to a run: records, events that tell of the records and of the retries, and time.
Time that has passed and retries that were made but are not recorded yet are its balance, so the effects of computations
that follow each other add up (`Effect.trans`), and a record settles what the work of its node has left
(`steady_record`). `Steady` computations do the same when nobody cancels the run; all computations are that but for the
attempts of an error handler.
-/

namespace IntegrationFlow

/-- The node and the status of the step of which an event tells. -/
def Event.notice (e : Event) : Option String × Option String :=
  (e.node?, (e.data.entries?.bind (Entries.field? "status")).bind Value.text?)

namespace Run

open Simulation Sim

/-- The node in whose visit the value of a place is stored. -/
def Place.owner : Place → String
  | .input node => node
  | .output node => node
  | .retried handler => handler

namespace Record

/-- The node and the status of a record. -/
def notice (r : Record) : Option String × Option String :=
  (some r.node, some r.status.name)

/-- A record refers to the input of its own node, and one of a success to an output that was stored in the visit of one
of the nodes. -/
structure IsAmong (r : Record) (ids : List String) : Prop where
  input : ∀ p, r.input? = some p → p = .input r.node
  output : ∀ p, r.output? = some p → r.status = .success ∧ p.owner ∈ ids

end Record

namespace Env

/-- No type of nodes takes a negative time. -/
def IsTimely (env : Env) : Prop :=
  ∀ type, 0 ≤ env.engine.durations.ofType type

/-- The same run when nobody cancels it. -/
def uncancelled (env : Env) : Env :=
  { env with cancels := fun _ => false }

theorem Valid.uncancelled {env : Env} (valid : env.Valid) : env.uncancelled.Valid :=
  ⟨valid.builtin, valid.flow⟩

end Env

/-- The same state when nobody has cancelled the run. -/
def State.uncancelled (s : State) : State :=
  { s with cancelled := false }

/-- An event that tells how a run goes on. -/
structure Tells (env : Env) (e : Event) : Prop where
  type : e.type = .stepRecorded ∨ e.type = .nodeRetry ∨ e.type = .circuitOpened
  flow : e.flow = env.flow.id
  execution : e.execution? = some env.execution

/-! ### Effects -/

/-- What lies between two states of a run: records and events were added, time has passed and nodes were retried. Of the
values only those of places of some nodes may have changed. -/
structure Changes (env : Env) (ids : List String) (rs : List Record) (es : List Event) (time retries : Int)
    (s s' : State) : Prop where
  records : s'.records = s.records ++ rs
  events : s'.events = s.events ++ es
  /-- The time that has passed is that of the records, and the balance. -/
  clock : env.IsTimely → (s'.clock.now : Int) = s.clock.now + (rs.map (·.duration)).sum + time
  /-- The retries that were published are those of the records, and the balance. -/
  retried : env.observed = true →
    (es.countP (·.type == .nodeRetry) : Int) = ((rs.map (·.retryCount)).sum : Nat) + retries
  recorded : env.observed = true → (es.filter (·.type == .stepRecorded)).map Event.notice = rs.map Record.notice
  told : ∀ e ∈ es, Tells env e
  spared : env.flow.SparesSources → ∀ p : Place, p.owner ∉ ids → s'.documents.read p = s.documents.read p
  among : ∀ r ∈ rs, r.IsAmong ids
  cancelled : s.cancelled = true → s'.cancelled = true

/-- Some records and events were added, with a balance of time and of retries. -/
def Effect (env : Env) (ids : List String) (time retries : Int) (s s' : State) : Prop :=
  ∃ rs es, Changes env ids rs es time retries s s'

namespace Effect

variable {env : Env} {ids : List String} {s s' s'' : State} {time time' retries retries' : Int}

/-- What an effect is about has not changed. -/
theorem of_eq (hrecords : s'.records = s.records) (hevents : s'.events = s.events) (hclock : s'.clock = s.clock)
    (hdocuments : s'.documents = s.documents) (hcancelled : s.cancelled = true → s'.cancelled = true) :
    Effect env ids 0 0 s s' :=
  ⟨[], [], by simp [hrecords], by simp [hevents], by simp [hclock], by simp, by simp, by simp, by simp [hdocuments],
    by simp, hcancelled⟩

theorem refl (s : State) : Effect env ids 0 0 s s :=
  of_eq rfl rfl rfl rfl id

/-- The effects of computations that follow each other add up. -/
theorem trans (h : Effect env ids time retries s s') (h' : Effect env ids time' retries' s' s'') :
    Effect env ids (time + time') (retries + retries') s s'' := by
  obtain ⟨rs, es, h⟩ := h
  obtain ⟨rs', es', h'⟩ := h'
  refine ⟨rs ++ rs', es ++ es', ?_, ?_, fun htimely => ?_, fun hobserved => ?_, fun hobserved => ?_, fun e he => ?_,
    fun hspares p hp => ?_, fun r hr => ?_, fun hcancelled => h'.cancelled (h.cancelled hcancelled)⟩
  · rw [h'.records, h.records, List.append_assoc]
  · rw [h'.events, h.events, List.append_assoc]
  · have := h.clock htimely
    have := h'.clock htimely
    rw [List.map_append, List.sum_append]
    omega
  · have := h.retried hobserved
    have := h'.retried hobserved
    rw [List.countP_append, List.map_append, List.sum_append]
    omega
  · rw [List.filter_append, List.map_append, List.map_append, h.recorded hobserved, h'.recorded hobserved]
  · rcases List.mem_append.1 he with he | he
    · exact h.told e he
    · exact h'.told e he
  · rw [h'.spared hspares p hp, h.spared hspares p hp]
  · rcases List.mem_append.1 hr with hr | hr
    · exact h.among r hr
    · exact h'.among r hr

theorem congr (h : Effect env ids time retries s s') (htime : time = time') (hretries : retries = retries') :
    Effect env ids time' retries' s s' :=
  htime ▸ hretries ▸ h

/-- An effect on the places of some nodes is one on those of more nodes. -/
theorem mono {ids' : List String} (h : Effect env ids time retries s s') (hids : ids ⊆ ids') :
    Effect env ids' time retries s s' := by
  obtain ⟨rs, es, h⟩ := h
  refine ⟨rs, es, h.records, h.events, h.clock, h.retried, h.recorded, h.told, fun hspares p hp => ?_, fun r hr => ?_,
    h.cancelled⟩
  · exact h.spared hspares p fun hmem => hp (hids hmem)
  · exact ⟨(h.among r hr).input, fun p hp => ((h.among r hr).output p hp).imp_right (@hids _)⟩

/-- Records are only added. -/
theorem isPrefix_records (h : Effect env ids time retries s s') : s.records <+: s'.records := by
  obtain ⟨rs, es, h⟩ := h
  exact ⟨rs, h.records.symm⟩

/-- A run that was cancelled stays so. -/
theorem cancelled_mono (h : Effect env ids time retries s s') (hcancelled : s.cancelled = true) :
    s'.cancelled = true := by
  obtain ⟨rs, es, h⟩ := h
  exact h.cancelled hcancelled

/-- A run that is not cancelled was not cancelled before. -/
theorem running (h : Effect env ids time retries s s') (hrunning : s'.cancelled = false) : s.cancelled = false := by
  rw [← Bool.not_eq_true] at hrunning ⊢
  exact mt h.cancelled_mono hrunning

end Effect

/-! ### Steady computations -/

/-- From every state, what a computation gives has a property, its effect leaves a balance, and without a cancellation it
would have given the same. -/
def Steady {α : Type} (env : Env) (ids : List String) (x : Env → Sim α) (time retries : α → Int)
    (p : α → Prop := fun _ => True) : Prop :=
  ∀ s a s', x env s = .ok a s' →
    Effect env ids (time a) (retries a) s s' ∧ p a ∧ x env.uncancelled s.uncancelled = .ok a s'.uncancelled

section

variable {α β : Type} {env : Env} {ids : List String} {x y : Env → Sim α} {k : α → Env → Sim β}
  {time retries : α → Int} {time' retries' : β → Int} {p : α → Prop} {q : β → Prop}

theorem Steady.effect (h : Steady env ids x time retries p) {s s' : State} {a : α} (hx : x env s = .ok a s') :
    Effect env ids (time a) (retries a) s s' :=
  (h s a s' hx).1

theorem Steady.congr {time' retries' : α → Int} {q : α → Prop} (h : Steady env ids x time retries p)
    (htime : ∀ a, p a → time a = time' a) (hretries : ∀ a, p a → retries a = retries' a) (himp : ∀ a, p a → q a) :
    Steady env ids x time' retries' q := by
  intro s a s' hx
  obtain ⟨heffect, hp, hsame⟩ := h s a s' hx
  exact ⟨heffect.congr (htime a hp) (hretries a hp), himp a hp, hsame⟩

/-- A computation that is another one, whether or not the run can be cancelled. -/
theorem Steady.of_eq (h : Steady env ids y time retries p) (henv : x env = y env)
    (huncancelled : x env.uncancelled = y env.uncancelled) : Steady env ids x time retries p := by
  intro s a s' hx
  rw [henv] at hx
  rw [huncancelled]
  exact h s a s' hx

/-- What the first computation leaves is to be settled by the second one. -/
theorem Steady.bind (h : Steady env ids x time retries p)
    (hk : ∀ a, p a → Steady env ids (k a) (fun b => time' b - time a) (fun b => retries' b - retries a) q) :
    Steady env ids (fun env => x env >>= fun a => k a env) time' retries' q := by
  intro s b s' hs
  obtain ⟨a, s₁, hx, hka⟩ := exists_of_bind_eq_ok hs
  obtain ⟨heffect, hp, hsame⟩ := h s a s₁ hx
  obtain ⟨heffect', hq, hsame'⟩ := hk a hp s₁ b s' hka
  refine ⟨(heffect.trans heffect').congr (add_sub_cancel _ _) (add_sub_cancel _ _), hq, ?_⟩
  exact (bind_eq_of_ok _ hsame).trans hsame'

theorem steady_pure {a : α} (htime : time a = 0) (hretries : retries a = 0) (hp : p a) :
    Steady env ids (fun _ => pure a) time retries p := by
  intro s b s' hs
  cases hs
  exact ⟨(Effect.refl s).congr htime.symm hretries.symm, hp, rfl⟩

theorem Steady.ite {c : Prop} [Decidable c] (hx : c → Steady env ids x time retries p)
    (hy : ¬ c → Steady env ids y time retries p) :
    Steady env ids (fun env => if c then x env else y env) time retries p := by
  by_cases hc : c
  · exact (hx hc).of_eq (if_pos hc) (if_pos hc)
  · exact (hy hc).of_eq (if_neg hc) (if_neg hc)

/-- A computation that looks at the state, but not at whether the run was cancelled. -/
theorem Steady.get_bind {k : State → Env → Sim α} (hk : ∀ s, k s.uncancelled = k s)
    (h : ∀ s, Steady env ids (k s) time retries p) :
    Steady env ids (fun env => get >>= fun s => k s env) time retries p := by
  intro s a s' hs
  obtain ⟨heffect, hp, hsame⟩ := h s s a s' hs
  refine ⟨heffect, hp, ?_⟩
  change k s.uncancelled env.uncancelled s.uncancelled = _
  rw [hk]
  exact hsame

theorem steady_modify {f : State → State} {time retries : PUnit → Int}
    (heffect : ∀ s, Effect env ids (time ()) (retries ()) s (f s))
    (hf : ∀ s, f s.uncancelled = (f s).uncancelled) : Steady env ids (fun _ => modify f) time retries := by
  intro s a s' hs
  cases hs
  exact ⟨heffect s, trivial, congrArg (EStateM.Result.ok _) (hf s)⟩

/-- A computation that stops leaves nothing to settle. -/
theorem steady_throw {stop : Stop} : Steady env ids (fun _ => throw stop) time retries p := by
  intro s a s' hs
  cases hs

/-- A computation that gives a result and leaves the state as it is. -/
theorem steady_of_ok {a : α} (henv : ∀ s, x env s = .ok a s)
    (huncancelled : ∀ s, x env.uncancelled s = .ok a s) (htime : time a = 0) (hretries : retries a = 0) (hp : p a) :
    Steady env ids x time retries p :=
  (steady_pure htime hretries hp).of_eq (funext henv) (funext huncancelled)

/-! ### Steps of a run -/

theorem steady_ofMishap (r : Except Expression.Mishap α) (htime : ∀ a, r = .ok a → time a = 0)
    (hretries : ∀ a, r = .ok a → retries a = 0) : Steady env ids (fun _ => ofMishap r) time retries fun a => r = .ok a := by
  cases r with
  | ok a => exact steady_pure (htime a rfl) (hretries a rfl) rfl
  | error m => exact steady_throw

end

section

variable {env : Env} {ids : List String}

/-- A run that was cancelled stays so at a moment. -/
private theorem cancelled_moment {s s' : State} {m : Moment} (hs : moment env m s = .ok () s')
    (hcancelled : s.cancelled = true) : s'.cancelled = true := by
  cases hs
  change (s.cancelled || _) = true
  rw [hcancelled, Bool.true_or]

private theorem events_moment {s s' : State} {m : Moment} (hs : moment env m s = .ok () s') :
    s'.events = s.events ++ m.event?.toList := by
  cases hs
  cases hevent : m.event? <;> simp [State.events, List.filterMap_append, hevent]

/-- Others get a word in without an event. -/
theorem steady_suspended : Steady env ids (fun env => moment env .suspended) (fun _ => 0) fun _ => 0 := by
  intro s a s' hs
  have hevents := events_moment hs
  have hcancelled := cancelled_moment hs
  cases hs
  exact ⟨Effect.of_eq rfl (hevents.trans (List.append_nil _)) rfl rfl hcancelled, trivial, rfl⟩

/-- A retry, or a circuit that has opened, is published. -/
theorem steady_publish {e : Env → Event} (he : e env.uncancelled = e env) (htells : Tells env (e env))
    (htype : (e env).type ≠ .stepRecorded) : Steady env ids (fun env => publish env (e env)) (fun _ => 0)
      fun _ => if (e env).type = .nodeRetry then 1 else 0 := by
  by_cases hobserved : env.observed = true
  · have hpublish : publish env.uncancelled (e env.uncancelled) = moment env.uncancelled (.published (e env)) := by
      rw [he]
      exact if_pos hobserved
    refine Steady.of_eq (y := fun env' => moment env' (.published (e env))) ?_ (if_pos hobserved) hpublish
    intro s a s' hs
    have hevents : s'.events = s.events ++ [e env] := events_moment hs
    have hcancelled := cancelled_moment hs
    cases hs
    refine ⟨⟨[], [e env], ?_, hevents, ?_, fun _ => ?_, fun _ => ?_, ?_, ?_, ?_, hcancelled⟩, trivial, rfl⟩
    · simp
    · simp
    · by_cases hretry : (e env).type = .nodeRetry <;> simp [hretry]
    · simp [htype]
    · simpa using htells
    · simp
    · simp
  · -- Nothing is published, so nobody counts.
    refine Steady.of_eq (y := fun _ => pure ()) ?_ (if_neg hobserved) (if_neg hobserved)
    intro s a s' hs
    cases hs
    obtain ⟨rs, es, h⟩ : Effect env ids 0 0 s s := Effect.refl s
    exact ⟨⟨rs, es, h.records, h.events, h.clock, fun h => absurd h hobserved, h.recorded, h.told, h.spared, h.among,
      h.cancelled⟩, trivial, rfl⟩

/-- Time passes that is not negative. -/
theorem steady_advance {ms : Int} (hms : env.IsTimely → 0 ≤ ms) :
    Steady env ids (fun _ => advance ms) (fun _ => ms) fun _ => 0 := by
  refine steady_modify (fun s => ⟨[], [], ?_, (List.append_nil _).symm, fun htimely => ?_, ?_, ?_, ?_, ?_, ?_, id⟩)
    fun _ => rfl
  · simp
  · have := hms htimely
    simp only [Clock.advance, List.map_nil, List.sum_nil]
    omega
  · simp
  · simp
  · simp
  · simp
  · simp

theorem steady_suspend {ms : Int} (hms : env.IsTimely → 0 ≤ ms) :
    Steady env ids (fun env => suspend env ms) (fun _ => ms) fun _ => 0 :=
  (steady_advance hms).bind fun _ _ =>
    steady_suspended.congr (fun _ _ => (Int.sub_self _).symm) (fun _ _ => rfl) fun _ _ => trivial

theorem steady_read (p : Place) : Steady env ids (fun _ => read p) (fun _ => 0) fun _ => 0 :=
  Steady.get_bind (fun _ => rfl) fun _ => steady_pure rfl rfl trivial

theorem Documents.read_store_of_ne (d : Documents) {p q : Place} (hne : q ≠ p) (new : Cell) :
    (d.store p new).read q = d.read q := by
  unfold read store
  rw [List.lookup_cons, beq_eq_false_iff_ne.2 hne]
  exact congrArg (·.getD (.atom .only .null)) ((Table.lookup_without p q d.cells).trans (if_neg hne))

/-- A value is stored in the visit of its node. -/
theorem steady_store {p : Place} (hp : p.owner ∈ ids) (c : Cell) :
    Steady env ids (fun _ => store p c) (fun _ => 0) fun _ => 0 := by
  refine steady_modify (fun s => ⟨[], [], ?_, (List.append_nil _).symm, ?_, ?_, ?_, ?_, fun _ q hq => ?_, ?_, id⟩)
    fun _ => rfl
  · simp
  · simp
  · simp
  · simp
  · simp
  · exact Documents.read_store_of_ne _ (fun heq => hq (by rw [heq]; exact hp)) c
  · simp

theorem steady_setSignal (edge : String) (signal : Signal) :
    Steady env ids (fun _ => setSignal edge signal) (fun _ => 0) fun _ => 0 :=
  steady_modify (fun _ => Effect.of_eq rfl rfl rfl rfl id) fun _ => rfl

theorem steady_nextAttempt (node : String) : Steady env ids (fun _ => nextAttempt node) (fun _ => 0) fun _ => 0 := by
  refine Steady.get_bind (fun _ => rfl) fun s => ?_
  let number := (s.attempts.lookup node).getD 0 + 1
  let count (s : State) : State := { s with attempts := (node, number) :: s.attempts.filter (·.1 != node) }
  have hcount : Steady env ids (fun _ => modify count) (fun _ => 0) fun _ => 0 :=
    steady_modify (fun _ => Effect.of_eq rfl rfl rfl rfl id) fun _ => rfl
  exact hcount.bind (k := fun _ _ => pure number) fun _ _ => steady_pure rfl rfl trivial

/-- The event of a recorded step tells of its node and its status. -/
theorem notice_stepRecorded {r : Record} {d : Documents} {v : Value} (h : (r.toStep d).toJson = .ok v) (flow execution : String) :
    (Event.stepRecorded flow execution v).notice = r.notice := by
  have h : Json.plain (r.toStep d).toValue = .ok v := by
    unfold Step.toJson at h
    split at h
    · cases h
    · exact h
  have hnodup : ([("nodeId", Value.text r.node), ("nodeType", .text r.type), ("status", .text r.status.name),
      ("input", (r.toStep d).input), ("output", (r.toStep d).output),
      ("error", ((r.toStep d).error?.map Failure.toValue).getD .null), ("durationMs", .int r.duration),
      ("retryCount", .int r.retryCount),
      ("httpTrace", ((r.toStep d).exchange?.map Exchange.toValue).getD .null)].map (·.1)).Nodup := by
    simp
  obtain ⟨es, node, rfl, hnode, hes⟩ :=
    Json.exists_field?_of_plain_ofFields hnodup (show ("nodeId", Value.text r.node) ∈ _ by simp) h
  obtain ⟨es', status, heq, hstatus, hes'⟩ :=
    Json.exists_field?_of_plain_ofFields hnodup (show ("status", Value.text r.status.name) ∈ _ by simp) h
  cases heq
  cases hnode
  cases hstatus
  simp [Event.notice, Event.stepRecorded, Record.notice, Value.entries?, Value.text?, hes, hes']

/-- A record settles the time and the retries that it tells of. -/
theorem steady_record {r : Record} (hamong : r.IsAmong ids) :
    Steady env ids (fun env => record env r) (fun _ => -r.duration) fun _ => -r.retryCount := by
  intro s a s' hs
  unfold record at hs ⊢
  obtain ⟨_, s₁, hadd, hs⟩ := exists_of_bind_eq_ok hs
  cases hadd
  by_cases hobserved : env.observed = true
  · rw [if_pos hobserved] at hs
    obtain ⟨s₁, _, hget, hs⟩ := exists_of_bind_eq_ok hs
    cases hget
    cases hv : (r.toStep s.documents).toJson with
    | ok v =>
      have hs : publish env (.stepRecorded env.flow.id env.execution v) { s with records := s.records ++ [r] } =
          .ok a s' := by
        rw [← hs]
        dsimp only
        rw [hv]
      rw [publish, if_pos hobserved] at hs
      cases hs
      have htold : Tells env (.stepRecorded env.flow.id env.execution v) := ⟨.inl rfl, rfl, rfl⟩
      -- The one record brings one event that tells of it, and both have the same notice.
      refine ⟨⟨[r], [.stepRecorded env.flow.id env.execution v], rfl, ?_, fun _ => ?_, fun _ => ?_, fun _ => ?_, ?_,
        fun _ _ _ => rfl, by simpa using hamong, fun hcancelled => ?_⟩, trivial, ?_⟩
      · exact List.filterMap_append
      · simp
      · simp [Event.stepRecorded]
      · simpa [Event.stepRecorded] using notice_stepRecorded hv env.flow.id env.execution
      · simpa using htold
      · change (s.cancelled || _) = true
        rw [hcancelled, Bool.true_or]
      · refine bind_eq_of_ok _ rfl |>.trans ?_
        have hobserved' : env.uncancelled.observed = true := hobserved
        rw [if_pos hobserved']
        refine bind_eq_of_ok _ rfl |>.trans ?_
        have hv' : (r.toStep s.uncancelled.documents).toJson = .ok v := hv
        dsimp only
        rw [hv']
        dsimp only
        rw [publish, if_pos hobserved']
        rfl
    | error why =>
      dsimp only at hs
      rw [hv] at hs
      cases hs
  · rw [if_neg hobserved] at hs
    cases hs
    refine ⟨⟨[r], [], rfl, (List.append_nil _).symm, fun _ => by simp, fun h => absurd h hobserved, fun h => absurd h hobserved, by simp,
      fun _ _ _ => rfl, by simpa using hamong, id⟩, trivial, ?_⟩
    refine bind_eq_of_ok _ rfl |>.trans ?_
    have hobserved' : ¬ env.uncancelled.observed = true := hobserved
    rw [if_neg hobserved']
    rfl

end

end Run

end IntegrationFlow
