import IntegrationFlow.Proofs.NodeType.Latency
import IntegrationFlow.Proofs.Run.Attend
import IntegrationFlow.Proofs.Run.Flaw
import IntegrationFlow.Proofs.Run.Gate

/-!
# What stops a run

Every step of a run of a valid flow is `Confined`: it stops with a fault, which the trace reports, at an evaluation that
is flawed on the values of the run, or at a record that is published and has no JSON form. The rules for `Sim.Confined`
carry this from the work of a node to whole runs (`Env.Valid.confined_simulate`).
-/

namespace IntegrationFlow.Run

open Simulation Sim

/-! ### Confined computations -/

/-- How a computation may stop, and in which state: with a fault, at an evaluation that is flawed on the values of the
run, or at the latest record, which is published and has no JSON form. -/
def Stop.Allowed (env : Env) (s : State) : Stop → Prop
  | .fault _ => True
  | .crashed m => m = .badValue ∧ env.flow.IsFlawedOn s.documents
  | .unwritable why => env.observed = true ∧
      ∃ past x, s.records = past ++ [x] ∧ (x.toStep s.documents).toJson = .error why

namespace Sim

variable {α β : Type} {env : Env}

/-- From a state, a computation stops at most in an allowed way, and its result has a property. -/
def ConfinedFrom (env : Env) (s : State) (x : Sim α) (p : α → Prop := fun _ => True) : Prop :=
  match x s with
  | .ok a _ => p a
  | .error stop s' => stop.Allowed env s'

/-- It does so from every state. -/
def Confined (env : Env) (x : Sim α) (p : α → Prop := fun _ => True) : Prop :=
  ∀ s, ConfinedFrom env s x p

theorem ConfinedFrom.bind {s : State} {x : Sim α} {k : α → Sim β} {p : α → Prop} {q : β → Prop}
    (h : ConfinedFrom env s x p) (hk : ∀ a, p a → Confined env (k a) q) : ConfinedFrom env s (x >>= k) q := by
  have hbind : (x >>= k) s = EStateM.bind x k s := rfl
  unfold ConfinedFrom at h ⊢
  rw [hbind, EStateM.bind]
  cases hx : x s with
  | ok a s' =>
    rw [hx] at h
    exact hk a h s'
  | error stop s' =>
    rw [hx] at h
    exact h

theorem Confined.bind {x : Sim α} {k : α → Sim β} {p : α → Prop} {q : β → Prop} (h : Confined env x p)
    (hk : ∀ a, p a → Confined env (k a) q) : Confined env (x >>= k) q :=
  fun s => (h s).bind hk

/-- A computation that goes on from the state in which it was. -/
theorem confinedFrom_bind_of_ok {s s' : State} {x : Sim α} {a : α} (hx : x s = .ok a s') {k : α → Sim β} {q : β → Prop}
    (hk : ConfinedFrom env s' (k a) q) : ConfinedFrom env s (x >>= k) q := by
  unfold ConfinedFrom
  rw [bind_eq_of_ok _ hx]
  exact hk

theorem confinedFrom_get_bind {s : State} {k : State → Sim α} {p : α → Prop} (h : ConfinedFrom env s (k s) p) :
    ConfinedFrom env s (get >>= k) p := by
  have hget : (get : Sim State) s = .ok s s := rfl
  exact confinedFrom_bind_of_ok hget h

theorem confinedFrom_modify_bind {s : State} {f : State → State} {k : PUnit → Sim α} {p : α → Prop}
    (h : ConfinedFrom env (f s) (k ()) p) : ConfinedFrom env s (modify f >>= k) p := by
  have hmodify : (modify f : Sim PUnit) s = .ok () (f s) := rfl
  exact confinedFrom_bind_of_ok hmodify h

theorem confined_pure {a : α} {p : α → Prop} (h : p a) : Confined env (pure a) p :=
  fun _ => h

theorem confined_get : Confined env get :=
  fun _ => trivial

theorem confined_modify (f : State → State) : Confined env (modify f) :=
  fun _ => trivial

theorem Confined.get_bind {k : State → Sim α} {p : α → Prop} (h : ∀ s, Confined env (k s) p) :
    Confined env (get >>= k) p :=
  confined_get.bind fun s _ => h s

theorem Confined.modify_bind {f : State → State} {k : PUnit → Sim α} {p : α → Prop} (h : Confined env (k ()) p) :
    Confined env (modify f >>= k) p :=
  (confined_modify f).bind fun _ _ => h

theorem confined_ofMishap {r : Except Expression.Mishap α} {p : α → Prop} (h : ∃ a, r = .ok a ∧ p a) :
    Confined env (ofMishap r) p := by
  obtain ⟨a, rfl, ha⟩ := h
  exact confined_pure ha

theorem confined_publish (e : Event) : Confined env (publish env e) := by
  unfold publish
  split
  · exact Confined.modify_bind (confined_modify _)
  · exact confined_pure trivial

theorem confined_suspend (ms : Int) : Confined env (suspend env ms) :=
  Confined.modify_bind (confined_modify _)

theorem read_eq_ok (p : Place) (s : State) : read p s = .ok (s.documents.read p) s :=
  rfl

theorem confined_nextAttempt (node : String) : Confined env (nextAttempt node) :=
  Confined.get_bind fun _ => Confined.modify_bind (confined_pure trivial)

/-- Only a step that is published needs a JSON form. -/
theorem confined_record (r : Record) : Confined env (record env r) := by
  intro s
  unfold record
  refine confinedFrom_modify_bind ?_
  split
  · next hobserved =>
    refine confinedFrom_get_bind ?_
    split
    · exact confined_publish _ _
    · next why hwhy => exact ⟨hobserved, s.records, r, rfl, hwhy⟩
  · exact confined_pure trivial _

end Sim

/-! ### Calls -/

namespace OutboundCall

variable (c : OutboundCall) {env : Env}

theorem confined_updateBreaker (change : BreakerPolicy → Nat → Breaker → Breaker) :
    Confined env (c.updateBreaker change) := by
  unfold updateBreaker
  split
  · exact confined_modify _
  · exact confined_pure trivial

theorem confined_isOpen : Confined env c.isOpen :=
  Confined.get_bind fun _ => confined_pure trivial

theorem confined_allowed : Confined env c.allowed := by
  unfold allowed
  split
  · exact Confined.get_bind fun _ => (c.confined_updateBreaker _).bind fun _ _ => confined_pure trivial
  · exact confined_pure trivial

theorem confined_reportFailure : Confined env (c.reportFailure env) := by
  unfold reportFailure
  refine c.confined_isOpen.bind fun wasOpen _ => (c.confined_updateBreaker _).bind fun _ _ => ?_
  refine c.confined_isOpen.bind fun isOpen _ => ?_
  split
  · exact confined_publish _
  · exact confined_pure trivial

variable (hduration : Confined env (durationOf env c.node))

include hduration

theorem confined_attempt : Confined env (c.attempt env) := by
  unfold attempt
  refine (confined_nextAttempt _).bind fun number _ => hduration.bind fun latency _ => ?_
  dsimp only
  split
  · exact (confined_suspend _).bind fun _ _ => c.confined_reportFailure.bind fun _ _ => confined_pure trivial
  · refine (confined_suspend _).bind fun _ _ => ?_
    split
    · exact c.confined_reportFailure.bind fun _ _ => confined_pure trivial
    · exact (c.confined_updateBreaker _).bind fun _ _ => confined_pure trivial

/-- However often a call is tried again. -/
theorem confined_attempts (remaining number : Nat) (elapsed : Int) (last? : Option FailureCause) :
    Confined env (c.attempts env remaining number elapsed last?) := by
  induction remaining generalizing number elapsed last? with
  | zero => exact confined_pure trivial
  | succ remaining ih =>
    have hbefore : Confined env (c.beforeAttempt env number last?) := by
      unfold beforeAttempt
      split
      · exact confined_pure trivial
      · exact (confined_suspend _).bind fun _ _ => (confined_publish _).bind fun _ _ => confined_pure trivial
    unfold attempts
    refine hbefore.bind fun delay _ => c.confined_allowed.bind fun allowed _ => ?_
    split
    · refine (c.confined_attempt hduration).bind fun taken _ => ?_
      dsimp only
      split
      · exact confined_pure trivial
      · exact ih _ _ _
    · exact confined_pure trivial

end OutboundCall

/-! ### The work of a node -/

/-- A node leaves through outputs that can be told. -/
def NodeOutcome.IsRoutable (o : NodeOutcome) : Prop :=
  ∀ c, o.exits ≠ .within c

variable {env : Env} {n : Node}

private theorem confinedFrom_settle {r : Outcome NodeOutcome} {s : State} (hok : ∀ o, r = .ok o → o.IsRoutable)
    (hallowed : ∀ m, r = .error (.crashed m) → m = .badValue ∧ env.flow.IsFlawedOn s.documents) :
    ConfinedFrom env s (settle n.id r) NodeOutcome.IsRoutable := by
  unfold settle
  split
  · next o => exact confined_pure (hok o rfl) s
  · exact confined_pure nofun s
  · next m => exact hallowed m rfl

private theorem isRoutable_transform {c : TransformConfig} {b : Birth} {input : Cell} {o : NodeOutcome}
    (h : transform c b input = .ok o) : o.IsRoutable := by
  obtain ⟨_, rfl⟩ := exists_of_transform h
  nofun

private theorem isRoutable_choose {c : ConditionConfig} {b : Birth} {input : Cell} {o : NodeOutcome}
    (h : choose c b input = .ok o) : o.IsRoutable := by
  obtain ⟨_, rfl⟩ := exists_of_choose h
  nofun

/-- The work of a node is confined where a flaw of its configuration is one of the flow on the values of the run. -/
theorem confinedFrom_work (hduration : Confined env (durationOf env n)) {c : Config} {b : Birth} {input : Cell}
    {s : State} (hflawed : c.IsFlawedOn b input → env.flow.IsFlawedOn s.documents) :
    ConfinedFrom env s (work env n c b input) NodeOutcome.IsRoutable := by
  cases c with
  | transform c =>
    refine confinedFrom_settle (fun _ h => isRoutable_transform h) fun m h => ?_
    exact (c.isFlawedOn_of_transform h).imp_right hflawed
  | condition c =>
    refine confinedFrom_settle (fun _ h => isRoutable_choose h) fun m h => ?_
    exact (c.isFlawed_of_choose h).imp_right hflawed
  | connector c => exact (OutboundCall.confined_attempts _ hduration _ _ _ _).bind (fun _ _ => confined_pure nofun) s
  | serviceCall c => exact (OutboundCall.confined_attempts _ hduration _ _ _ _).bind (fun _ _ => confined_pure nofun) s
  | database c =>
    refine hduration.bind (fun duration _ => (confined_suspend _).bind fun _ _ => ?_) s
    split
    · exact confined_pure nofun
    · exact confined_pure nofun
  | ingress _ | serviceBox _ | errorHandler _ => exact confined_pure nofun s

/-! ### Visits -/

variable (valid : env.Valid) (hn : n ∈ env.flow.nodes)

include valid hn

/-- The time that a node takes can be told, for its configuration can be read. -/
private theorem Env.Valid.confined_durationOf : Confined env (durationOf env n) := by
  obtain ⟨k, -, hfind⟩ := valid.exists_kind hn
  obtain ⟨c, hread⟩ := NodeType.exists_read_eq_fits (t := k.nodeType) rfl (valid.flow.configProblems_eq_nil hn hfind)
  obtain ⟨ms, hms, -⟩ := env.engine.durations.exists_ofNode_eq_ok hread
  exact confined_ofMishap ⟨ms, hms, trivial⟩

private theorem Env.Valid.confined_finishTiming {o : NodeOutcome} (ho : o.IsRoutable) :
    Confined env (finishTiming env n o) NodeOutcome.IsRoutable := by
  unfold finishTiming
  split
  · exact confined_pure ho
  · exact (valid.confined_durationOf hn).bind fun _ _ => Confined.modify_bind (confined_pure ho)

private theorem Env.Valid.confined_reinvoke {p : Place} (hp : p.IsOutcomeOf n.id) :
    Confined env (reinvoke env n p) NodeOutcome.IsRoutable := by
  intro s
  obtain ⟨c, hname, hread, hok⟩ := valid.exists_semanticsOf hn
  unfold reinvoke
  refine confinedFrom_bind_of_ok (read_eq_ok _ s) (confinedFrom_bind_of_ok (hok s) ?_)
  exact (confinedFrom_work (valid.confined_durationOf hn) fun h => .node hn hname hread hp h).bind fun o ho =>
    valid.confined_finishTiming hn ho

omit hn

private theorem Env.Valid.confined_attempts (r : Retrying) (horigin : r.origin ∈ env.flow.nodes)
    (remaining done waited : Nat) (last : Failure) :
    Confined env (r.attempts env remaining done waited last) NodeOutcome.IsRoutable := by
  have hfinish (o : NodeOutcome) (ho : o.IsRoutable) (waited retryCount : Nat) :
      Confined env (r.finish o waited retryCount) NodeOutcome.IsRoutable :=
    Confined.modify_bind (confined_pure ho)
  have hpassOn (failure : Failure) : (passOn failure).IsRoutable := by
    intro c h
    cases h
  induction remaining generalizing done waited last with
  | zero => exact hfinish _ (hpassOn _) _ _
  | succ remaining ih =>
    unfold Retrying.attempts
    refine Confined.get_bind fun s => ?_
    split
    · exact hfinish _ (hpassOn _) _ _
    · refine (confined_suspend _).bind fun _ _ => (confined_publish _).bind fun _ _ => ?_
      refine (valid.confined_reinvoke horigin (.inr ⟨_, rfl⟩)).bind fun o _ => ?_
      split
      · exact (confined_modify _).bind fun _ _ => (confined_record _).bind fun _ _ => hfinish _ (by nofun) _ _
      · exact (confined_record _).bind fun _ _ => ih _ _ _

include hn

omit valid hn

include valid hn

omit valid hn

include valid hn

omit hn

end IntegrationFlow.Run
