import IntegrationFlow.Proofs.Run.Balance

/-!
# Runs that are cancelled

A run is cancelled before its first node or while one of its nodes is visited. It then ends with that node, and its steps
begin those of the same run without the cancellation; only the step of an error handler that was about to try again is
its own. The values of the steps agree where no mapping writes into an output that was recorded
(`trace_of_cancelled_run`); where one does, they need not (`steps_of_overwritten`).
-/

namespace IntegrationFlow

/-- The same request when nobody cancels the run. -/
def Run.Request.uncancelled (r : Run.Request) : Run.Request :=
  { r with cancels := fun _ => false }

namespace Run

open Simulation Sim

/-! ### When a run is cancelled -/

/-- A run over nodes is cancelled when the visits of just these nodes were started: before all of them, or while the
last of them is visited. -/
inductive CancelledAfter (env : Env) (s : State) : List Node → Prop
  | before (cancelled : s.cancelled = true) : CancelledAfter env s []
  | during {done : List Node} {n : Node} {s₁ s₂ : State} (visited : visitAll env done s = .ok true s₁)
    (running : s₁.cancelled = false) (last : visit env n s₁ = .ok () s₂) (cancelled : s₂.cancelled = true) :
    CancelledAfter env s (done ++ [n])

section

variable {env : Env} {n : Node} {done later : List Node} {s s₁ s' : State} {finished : Bool}

/-- A node is visited before those after which a run is cancelled. -/
theorem CancelledAfter.cons {started : List Node} (hrunning : s.cancelled = false) (hvisit : visit env n s = .ok () s₁)
    (h : CancelledAfter env s₁ started) : CancelledAfter env s (n :: started) := by
  cases h with
  | before hcancelled =>
    have hnone : visitAll env [] s = .ok true s := rfl
    exact .during hnone hrunning hvisit hcancelled
  | @during done k mid last hvisited hcalm hlast hcancelled =>
    have hvisited : visitAll env (n :: done) s = .ok true mid := by
      rw [visitAll_of_running hrunning, bind_eq_of_ok _ hvisit]
      exact hvisited
    exact .during hvisited hcalm hlast hcancelled

/-- A run that leaves nodes over was cancelled before one of them. -/
theorem exists_cancelledAfter {order : List Node} (h : visitAll env order s = .ok false s') :
    ∃ started n later, order = started ++ n :: later ∧ CancelledAfter env s started := by
  induction order generalizing s with
  | nil => cases h
  | cons n order ih =>
    rcases visitAll_cons h with ⟨hcancelled, -, -⟩ | ⟨hrunning, s₁, hvisit, h⟩
    · exact ⟨[], n, order, rfl, .before hcancelled⟩
    · obtain ⟨started, m, later, rfl, hafter⟩ := ih h
      exact ⟨n :: started, m, later, rfl, hafter.cons hrunning hvisit⟩

/-- Whether a run over nodes was cancelled when the visits of just these nodes were started. -/
def isCancelledAfter (env : Env) : List Node → State → Bool
  | [], s => s.cancelled
  | n :: started, s => !s.cancelled && isOk (visit env n) s && isCancelledAfter env started (endState (visit env n) s)

theorem cancelledAfter_of_check {started : List Node} (h : isCancelledAfter env started s = true) :
    CancelledAfter env s started := by
  induction started generalizing s with
  | nil => exact .before h
  | cons n started ih =>
    unfold isCancelledAfter at h
    rw [Bool.and_eq_true, Bool.and_eq_true, Bool.not_eq_true'] at h
    obtain ⟨⟨hrunning, hok⟩, hafter⟩ := h
    exact (ih hafter).cons hrunning (eq_ok_endState hok)

end

/-! ### The same run without the cancellation -/

section

variable {env : Env} (valid : env.Valid) {start : String} {n : Node} {done later : List Node} {s s₁ s₂ : State}

include valid

/-- Visits during which nobody has cancelled the run are the same when nobody can. -/
theorem visitAll_uncancelled (hnodes : ∀ n ∈ done, n ∈ env.flow.nodes) (h : visitAll env done s = .ok true s₁)
    (hcalm : s₁.cancelled = false) : visitAll env.uncancelled done s.uncancelled = .ok true s₁.uncancelled := by
  induction done generalizing s with
  | nil =>
    cases h
    rfl
  | cons n done ih =>
    have hlater : ∀ m ∈ done, m ∈ env.flow.nodes := fun m hm => hnodes m (List.mem_cons_of_mem _ hm)
    rcases visitAll_cons h with ⟨-, hfinished, -⟩ | ⟨-, s₂, hvisit, h⟩
    · cases hfinished
    · rw [visitAll_of_running (s := s.uncancelled) rfl]
      rcases (interruptible_visit valid (hnodes n List.mem_cons_self) s () s₂ hvisit).2 with hsame | ⟨hcancelled, -⟩
      · rw [bind_eq_of_ok _ hsame]
        exact ih hlater h
      · have hstays := (effect_visitAll valid hlater h).cancelled_mono hcancelled
        rw [hcalm] at hstays
        cases hstays

omit valid in
/-- A step has the same values when the places to which its record refers have. -/
theorem Record.toStep_congr {r : Record} {d d' : Documents}
    (hread : ∀ p, r.input? = some p ∨ r.output? = some p → d.read p = d'.read p) : r.toStep d = r.toStep d' := by
  have hinput : (r.input?.map fun p => (d.read p).value) = r.input?.map fun p => (d'.read p).value :=
    Option.map_congr fun p hp => congrArg Cell.value (hread p (.inl hp))
  have houtput : (r.output?.map fun p => (d.read p).value) = r.output?.map fun p => (d'.read p).value :=
    Option.map_congr fun p hp => congrArg Cell.value (hread p (.inr hp))
  unfold Record.toStep
  rw [hinput, houtput]

/-- The records of a run refer to inputs and outputs of nodes that were visited. -/
def Refers (ids : List String) (r : Record) : Prop :=
  ∀ p, r.input? = some p ∨ r.output? = some p → p.owner ∈ ids

omit valid in
/-- A step has the same values as long as nothing is written where its record refers to. -/
theorem Refers.toStep_eq {ids : List String} {r : Record} (h : Refers ids r) {d d' : Documents}
    (hread : ∀ p : Place, p.owner ∈ ids → d.read p = d'.read p) : r.toStep d = r.toStep d' :=
  Record.toStep_congr fun p hp => hread p (h p hp)

variable (hstable : IsStableOrder env.flow start (done ++ later)) (hstart : s.ledger = ⟨.running, [], [], [], []⟩)

include hstable hstart

theorem refers_of_visitAll (h : visitAll env done s = .ok true s₁) :
    ∀ r ∈ s₁.records, Refers (done.map (·.id)) r := by
  obtain ⟨-, turns, hturned⟩ := exists_turned valid hstable hstart h
  obtain ⟨rs, es, hchanges⟩ := effect_visitAll valid hstable.declared h
  have hrecords : s₁.records = rs := by
    rw [hchanges.records, show s.records = [] from congrArg Ledger.records hstart, List.nil_append]
  intro r hr p hp
  have hamong := hchanges.among r (hrecords ▸ hr)
  rcases hp with hp | hp
  · rw [hamong.input p hp]
    exact hturned.visited r hr
  · exact (hamong.output p hp).2

end

/-- The first list begins the second one, but for a last entry that may be its own. -/
def BeginsLike {α : Type} (last : α → Prop) (xs ys : List α) : Prop :=
  ∃ common, common <+: ys ∧ (xs = common ∨ ∃ own, xs = common ++ [own] ∧ last own)

/-- The last record of a run that was cut short while an error handler tried a node again. -/
structure IsGivingUp (f : Flow) (n : Node) (r : Record) : Prop where
  node : r.node = n.id
  status : r.status = .error
  left : LeavesAttempts f n r.retryCount

section

variable {env : Env} (valid : env.Valid) {start : String} {n : Node} {done later : List Node} {s s₁ s₂ s₀ : State}
  (hstable : IsStableOrder env.flow start (done ++ n :: later)) (hstart : s.ledger = ⟨.running, [], [], [], []⟩)
  (hvisited : visitAll env done s = .ok true s₁) (hlast : visit env n s₁ = .ok () s₂)

include valid hstable hstart hvisited hlast

/-- All records of a handler that was cut short but its own refer to nodes that were visited before it. -/
private theorem refers_of_brokenOff {common : List Record} (hbroken : BrokenOff env n s₂ common) :
    ∀ r ∈ common, Refers (done.map (·.id)) r := by
  have hn := hstable.isAvailable
  obtain ⟨-, turns, hturned⟩ := exists_turned valid hstable hstart hvisited
  obtain ⟨own, hown, -, herror, -⟩ := hbroken
  obtain ⟨turn, htook, hrecords, hagain, -⟩ :=
    hturned.exists_took valid hstable.declared_concat hn.fresh ((meets_visit valid hn.declared s₁).of_ok hlast)
  obtain ⟨rs, es, hchanges⟩ := (interruptible_visit valid hn.declared s₁ () s₂ hlast).1
  have hrs : rs = turn.all := List.append_cancel_left (hchanges.records.symm.trans hrecords)
  -- The record of the handler is the last one, so the others are those before the visit and those of the attempts.
  have hsplit : common ++ [own] = (s₁.records ++ turn.again) ++ [turn.own] := by
    rw [← hown, List.append_assoc]
    exact hrecords
  obtain ⟨rfl, hsame⟩ := List.append_inj' hsplit rfl
  obtain rfl : own = turn.own := List.singleton_inj.1 hsame
  intro r hr p hp
  rcases List.mem_append.1 hr with hr | hr
  · exact refers_of_visitAll valid hstable hstart hvisited r hr p hp
  · have hamong := hchanges.among r (by rw [hrs]; exact List.mem_append_left _ hr)
    rcases hp with hp | hp
    · rw [hamong.input p hp]
      exact hagain r hr
    · exact absurd (hamong.output p hp).1 (htook.status_ne_success (by rw [herror]; nofun) r hr)

/-- The records of a run that was cancelled while a node was visited begin those of the run that was not; so do their
values when no mapping writes into what was recorded. -/
private theorem exists_common_records (hrunning : s₁.cancelled = false) {s₂₀ : State}
    (hvisit₀ : visit env.uncancelled n s₁.uncancelled = .ok () s₂₀)
    (hrest : Effect env.uncancelled (later.map (·.id)) 0 0 s₂₀ s₀) :
    ∃ common, common <+: s₀.records ∧
      (s₂.records = common ∨ ∃ own, s₂.records = common ++ [own] ∧ IsGivingUp env.flow n own) ∧
        (env.flow.SparesSources → ∀ r ∈ common, r.toStep s₂.documents = r.toStep s₀.documents) := by
  have hn := hstable.isAvailable
  have hnodup := hstable.nodup
  rw [List.map_append, List.map_cons, List.nodup_append] at hnodup
  obtain ⟨-, hnodup, hdisjoint⟩ := hnodup
  rw [List.nodup_cons] at hnodup
  obtain ⟨heffect, hcases⟩ := interruptible_visit valid hn.declared s₁ () s₂ hlast
  have hlater := hrest.isPrefix_records
  obtain ⟨rs₀, es₀, hchanges₀⟩ := hrest
  rcases hcases with hsame | ⟨-, common, hbroken, hlonger⟩
  -- The cancellation has changed nothing about the visit: its records are all common.
  · cases hsame.symm.trans hvisit₀
    refine ⟨s₂.records, hlater, .inl rfl, fun hspares r hr => ?_⟩
    have hstable' : IsStableOrder env.flow start ((done ++ [n]) ++ later) := by
      rwa [List.append_assoc]
    have hrefers := refers_of_visitAll valid hstable' hstart (visitAll_concat hvisited hrunning hlast) r hr
    refine hrefers.toStep_eq fun p hp => (hchanges₀.spared hspares p fun hmem => ?_).symm
    rw [List.map_append, List.mem_append] at hp
    rcases hp with hp | hp
    · exact hdisjoint _ hp _ (List.mem_cons_of_mem _ hmem) rfl
    · exact hnodup.1 ((List.mem_singleton.1 hp : p.owner = n.id) ▸ hmem)
  · refine ⟨common, (hlonger () s₂₀ hvisit₀).trans hlater, .inr ?_, fun hspares r hr => ?_⟩
    · obtain ⟨own, hown, hnode, herror, hleft⟩ := hbroken
      exact ⟨own, hown, hnode, herror, hleft⟩
    · refine (refers_of_brokenOff valid hstable hstart hvisited hlast hbroken r hr).toStep_eq fun p hp => ?_
      have hfresh : p.owner ∉ [n.id] := fun hmem => hn.fresh (List.mem_singleton.1 hmem ▸ hp)
      obtain ⟨rs, es, hchanges⟩ := heffect
      obtain ⟨rs', es', hchanges'⟩ := (interruptible_visit valid.uncancelled hn.declared _ () s₂₀ hvisit₀).1
      rw [hchanges.spared hspares p hfresh, hchanges₀.spared hspares p ?_, hchanges'.spared hspares p hfresh]
      · rfl
      · exact fun hmem => hdisjoint _ hp _ (List.mem_cons_of_mem _ hmem) rfl

end

/-! ### Whole runs -/

/-- A run that is cancelled while nodes are left over ends as it is then. -/
private theorem end_of_cancelledAfter {env : Env} {started later : List Node} {n : Node} {s s' : State}
    (hafter : CancelledAfter env s started) (h : (visitAll env (started ++ n :: later) >>= finishRun) s = .ok () s') :
    ∃ s₂, visitAll env started s = .ok true s₂ ∧ s' = { s₂ with status := .cancelled } := by
  obtain ⟨s₂, hvisited, hcancelled⟩ : ∃ s₂, visitAll env started s = .ok true s₂ ∧ s₂.cancelled = true := by
    cases hafter with
    | before hcancelled => exact ⟨s, rfl, hcancelled⟩
    | during hvisited hrunning hlast hcancelled => exact ⟨_, visitAll_concat hvisited hrunning hlast, hcancelled⟩
  obtain ⟨finished, s₃, hrest, h⟩ := exists_of_bind_eq_ok h
  rw [visitAll_append hvisited] at hrest
  rcases visitAll_cons hrest with ⟨-, rfl, rfl⟩ | ⟨hrunning, -⟩
  · cases h
    exact ⟨s₂, hvisited, rfl⟩
  · rw [hcancelled] at hrunning
    cases hrunning

/-- The step without its values. -/
def Step.outline (x : Step) : Step :=
  { x with input := .null, output := .null, exchange? := none }

/-- The last step of a run that was cut short while an error handler tried a node again. -/
structure IsGivingUpStep (f : Flow) (started : List Node) (x : Step) : Prop where
  last : ∃ n, started.getLast? = some n ∧ x.node = n.id ∧ LeavesAttempts f n x.retryCount
  status : x.status = .error

/-- How the trace of a run that was cancelled when the visits of some nodes were started, and others were not, is
related to that of the same run without the cancellation. -/
structure CutShort (f : Flow) (started : List Node) (t t₀ : Trace) : Prop where
  status : t.status = .cancelled
  error : t.error? = some "Run cancelled"
  /-- The nodes that were started have steps, and no others. -/
  visited : ∀ id, (∃ x ∈ t.steps, x.node = id) ↔ id ∈ started.map (·.id)
  outlines : BeginsLike (IsGivingUpStep f started) (t.steps.map Step.outline) (t₀.steps.map Step.outline)
  steps : f.SparesSources → BeginsLike (IsGivingUpStep f started) t.steps t₀.steps

theorem BeginsLike.map {α β : Type} {last : α → Prop} {last' : β → Prop} {xs ys common : List α} {g g' : α → β}
    (hbegins : common <+: ys) (hxs : xs = common ∨ ∃ own, xs = common ++ [own] ∧ last own)
    (hsame : ∀ x ∈ common, g x = g' x) (hlast : ∀ x, last x → last' (g x)) : BeginsLike last' (xs.map g) (ys.map g') := by
  refine ⟨common.map g, ?_, hxs.imp ?_ ?_⟩
  · rw [List.map_congr_left hsame]
    exact hbegins.map g'
  · rintro rfl
    rfl
  · rintro ⟨own, rfl, hown⟩
    exact ⟨g own, by simp, hlast own hown⟩

section

variable {env : Env} (valid : env.Valid) {start : String} {n : Node} {started later : List Node} {s s' s₀ : State}

include valid

/-- An error handler is never the last node of a run, for edges leave both of its outputs. -/
theorem not_leavesAttempts_of_last (hstable : IsStableOrder env.flow start (started ++ [n])) {made : Nat} :
    ¬ LeavesAttempts env.flow n made := by
  rintro ⟨htype, -⟩
  have hn := hstable.isAvailable
  obtain ⟨k, hname, hfind⟩ := valid.exists_kind hn.declared
  obtain rfl : k = Kind.errorHandler := Kind.name_injective (hname.symm.trans htype)
  have hwired : Validator.isWired env.flow n handledPort = true :=
    valid.flow.isWired hn.declared hfind (by decide) (by decide)
  obtain ⟨e, he, -⟩ := List.any_eq_true.1 hwired
  obtain ⟨hmem, hsource⟩ := Flow.mem_outgoing.1 he
  obtain ⟨target, hlater, hid⟩ := hstable.exists_target valid.flow hmem (hsource ▸ hn.reached)
  exact hstable.target_not_mem he (hid ▸ List.mem_map_of_mem hlater)

variable (hstable : IsStableOrder env.flow start (started ++ n :: later))
  (hstart : s.ledger = ⟨.running, [], [], [], []⟩)

include hstable hstart

/-- The records of a run that is cancelled while nodes are left over begin those of the run that is not. -/
private theorem exists_common_of_cancelledAfter (hafter : CancelledAfter env s started) {s₂ : State}
    (hvisited : visitAll env started s = .ok true s₂)
    (h₀ : (visitAll env.uncancelled (started ++ n :: later) >>= finishRun) s.uncancelled = .ok () s₀) :
    ∃ common, common <+: s₀.records ∧ (s₂.records = common ∨
      ∃ own, s₂.records = common ++ [own] ∧ ∃ n, started.getLast? = some n ∧ IsGivingUp env.flow n own) ∧
        (env.flow.SparesSources → ∀ r ∈ common, r.toStep s₂.documents = r.toStep s₀.documents) := by
  cases hafter with
  | before hcancelled =>
    cases hvisited
    have hnone : s.records = [] := congrArg Ledger.records hstart
    refine ⟨[], List.nil_prefix, .inl hnone, fun _ r hr => ?_⟩
    simp at hr
  | @during done k s₁ s₂' hdone hrunning hlast hcancelled =>
    cases hvisited.symm.trans (visitAll_concat hdone hrunning hlast)
    have hstable' : IsStableOrder env.flow start (done ++ k :: (n :: later)) := by
      rwa [List.append_assoc] at hstable
    -- Up to the last visit both runs go the same way; there the cancelled one may break off.
    have hdone₀ := visitAll_uncancelled valid hstable'.declared hdone hrunning
    obtain ⟨finished, s₃, hrest, hend⟩ := exists_of_bind_eq_ok h₀
    rw [List.append_assoc, visitAll_append hdone₀] at hrest
    rcases visitAll_cons hrest with ⟨hcancelled₀, -⟩ | ⟨-, s₂₀, hvisit₀, hrest⟩
    · cases hcancelled₀
    · have hnodes : ∀ m ∈ n :: later, m ∈ env.flow.nodes := fun m hm =>
        ((hstable.mem_iff m).1 (List.mem_append_right _ hm)).1
      have hrest := effect_visitAll valid.uncancelled hnodes hrest
      obtain ⟨common, hcommon, hcases, hvalues⟩ := exists_common_records valid hstable' hstart hdone hlast hrunning
        hvisit₀ (hrest.trans ((steady_finishRun finished).effect hend))
      refine ⟨common, hcommon, hcases.imp_right ?_, hvalues⟩
      rintro ⟨own, hown, hgiving⟩
      exact ⟨own, hown, k, by simp, hgiving⟩

/-- A run that is cancelled while nodes are left over is cut short. -/
theorem cutShort_of_cancelledAfter (hafter : CancelledAfter env s started)
    (h : (visitAll env (started ++ n :: later) >>= finishRun) s = .ok () s')
    (h₀ : (visitAll env.uncancelled (started ++ n :: later) >>= finishRun) s.uncancelled = .ok () s₀) :
    CutShort env.flow started (traceOf env s' none) (traceOf env.uncancelled s₀ none) := by
  obtain ⟨s₂, hvisited, rfl⟩ := end_of_cancelledAfter hafter h
  obtain ⟨-, turns, hturned⟩ := exists_turned valid hstable hstart hvisited
  obtain ⟨common, hbegins, hcases, hvalues⟩ :=
    exists_common_of_cancelledAfter valid hstable hstart hafter hvisited h₀
  have hgiving (d : Documents) (r : Record) (hr : ∃ n, started.getLast? = some n ∧ IsGivingUp env.flow n r) :
      IsGivingUpStep env.flow started (r.toStep d) := by
    obtain ⟨n, hn, hnode, herror, hleft⟩ := hr
    exact ⟨⟨n, hn, hnode, hleft⟩, herror⟩
  refine ⟨rfl, rfl, fun id => ?_, ?_, fun hspares => ?_⟩
  · constructor
    · rintro ⟨x, hx, rfl⟩
      obtain ⟨r, hr, rfl⟩ := List.mem_map.1 hx
      exact hturned.visited r hr
    · intro hid
      obtain ⟨m, hm, rfl⟩ := List.mem_map.1 hid
      obtain ⟨r, hr, hnode⟩ := hturned.exists_record hm
      exact ⟨r.toStep s₂.documents, List.mem_map_of_mem hr, hnode⟩
  · unfold traceOf
    rw [List.map_map, List.map_map]
    refine BeginsLike.map hbegins hcases (fun _ _ => rfl) fun r hr => ?_
    obtain ⟨hlast, hstatus⟩ := hgiving s₂.documents r hr
    exact ⟨hlast, hstatus⟩
  · exact BeginsLike.map hbegins hcases (hvalues hspares) (hgiving s₂.documents)

end

theorem begun_uncancelled (env : Env) (openCircuits : List String) :
    begun env.uncancelled openCircuits = (begun env openCircuits).uncancelled := by
  unfold begun endState publish
  by_cases hobserved : env.observed = true
  · have hobserved' : env.uncancelled.observed = true := hobserved
    rw [if_pos hobserved, if_pos hobserved']
    rfl
  · have hobserved' : ¬ env.uncancelled.observed = true := hobserved
    rw [if_neg hobserved, if_neg hobserved']
    rfl

/-- A run that was not cancelled while nodes were left over goes on as if it had not been cancelled at all. -/
theorem uncancelled_of_not_cancelledAfter {env : Env} (valid : env.Valid) {start : String} {order : List Node}
    (hstable : IsStableOrder env.flow start order) {s s' : State}
    (hnever : ∀ started n later, order = started ++ n :: later → ¬ CancelledAfter env s started)
    (h : (visitAll env order >>= finishRun) s = .ok () s') :
    (visitAll env.uncancelled order >>= finishRun) s.uncancelled = .ok () s'.uncancelled := by
  obtain ⟨finished, s₁, hvisits, hend⟩ := exists_of_bind_eq_ok h
  have hend : finishRun finished s₁.uncancelled = .ok () s'.uncancelled :=
    ((steady_finishRun finished : Steady env [] _ _ _) s₁ () s' hend).2.2
  cases finished with
  | false =>
    obtain ⟨started, n, later, horder, hafter⟩ := exists_cancelledAfter hvisits
    exact absurd hafter (hnever started n later horder)
  | true =>
    refine (bind_eq_of_ok _ ?_).trans hend
    rcases List.eq_nil_or_concat' order with rfl | ⟨done, n, rfl⟩
    · cases hvisits
      rfl
    · have hn := hstable.isAvailable
      obtain ⟨s₂, hdone, hrunning, hlast⟩ := exists_of_visitAll_concat hvisits
      rw [visitAll_append (visitAll_uncancelled valid hstable.declared hdone hrunning), visitAll_of_running rfl]
      rcases (interruptible_visit valid hn.declared s₂ () s₁ hlast).2 with hsame | ⟨-, common, hbroken, -⟩
      · rw [bind_eq_of_ok _ hsame]
        rfl
      · obtain ⟨own, -, -, -, hleft⟩ := hbroken
        exact absurd hleft (not_leavesAttempts_of_last valid hstable)

/-- A run that is cancelled, and the same run without the cancellation. -/
theorem cutShort_or_eq {engine : Engine} {f : Flow} {r : Request} {report report₀ : Report} {t t₀ : Trace}
    (hbuiltin : engine.registry = .builtin) (hrun : engine.run f r = .ok report) (htrace : report.trace = .ok t)
    (hrun₀ : engine.run f r.uncancelled = .ok report₀) (htrace₀ : report₀.trace = .ok t₀) :
    ∃ ingress order, Validator.ingressNodes engine.registry f = [ingress] ∧ executionOrder? f ingress = some order ∧
      (∀ started n later, order = started ++ n :: later →
        CancelledAfter (r.env engine f) (begun (r.env engine f) r.openCircuits) started → CutShort f started t t₀) ∧
        ((∀ started n later, order = started ++ n :: later →
          ¬ CancelledAfter (r.env engine f) (begun (r.env engine f) r.openCircuits) started) → t = t₀) := by
  obtain ⟨hvalid, rfl⟩ := Engine.run_eq_ok_iff.1 hrun
  obtain ⟨-, rfl⟩ := Engine.run_eq_ok_iff.1 hrun₀
  have valid : (r.env engine f).Valid := ⟨hbuiltin, hvalid⟩
  obtain ⟨ingress, order, hingress, horder, hstable⟩ := exists_order valid.flow
  obtain ⟨s', hs, rfl, -⟩ := exists_end_of_trace valid htrace
  obtain ⟨s₀, hs₀, rfl, -⟩ := exists_end_of_trace valid.uncancelled htrace₀
  rw [simulate_eq valid hingress horder] at hs
  rw [simulate_eq valid.uncancelled hingress horder] at hs₀
  have hs₀ : (visitAll (r.env engine f).uncancelled order >>= finishRun)
      (begun (r.env engine f) r.openCircuits).uncancelled = .ok () s₀ := by
    rw [← begun_uncancelled]
    exact hs₀
  -- The two runs are the same up to where the one is cancelled.
  refine ⟨ingress, order, hingress, horder, ?_, fun hnever => ?_⟩
  · rintro started n later rfl hafter
    exact cutShort_of_cancelledAfter valid hstable (begun_eq _ _).1 hafter hs hs₀
  · have hsame := uncancelled_of_not_cancelledAfter valid hstable hnever hs
    cases hsame.symm.trans hs₀
    rfl

/-- The same company, when it does not cancel a flow. -/
def Company.sparing (c : Company) (flow : String) : Company :=
  { c with during := fun moments => (c.during moments).filter (· != .cancel flow) }

/-- Nobody cancels a flow among those who do not cancel it. -/
theorem Admitted.Begins.isCancelled_sparing {a : Admitted} {flow : String} (h : a.Begins flow) (c : Company) :
    a.isCancelled (c.sparing flow) = fun _ => false := by
  funext moments
  refine Bool.eq_false_iff.2 (mt (h.isCancelled_iff _ moments).1 fun hmem => ?_)
  obtain ⟨k, -, hk⟩ := List.mem_flatMap.1 (Admission.mem_ofOthers.1 hmem).1
  simp [Company.sparing] at hk

/-- A run that is cancelled is told so: the cancellation finds it, and from then on its flag is raised. While nodes are
left over that were not started, the run is cut short there; else its trace is that of the same run without the
cancellation. -/
theorem trace_of_cancelled_run {engine : Engine} {earlier : List Admission.Act} {s : Admission} {f : Flow}
    {r : Request} {c : Company} {h h₀ : Hosted} {t t₀ : Trace} (hbuiltin : engine.registry = .builtin)
    (hearlier : ({} : Admission).after earlier = some s) (hhost : engine.host s f r c = .ok (some h))
    (htrace : h.report.trace = .ok t) (hhost₀ : engine.host s f r (c.sparing f.id) = .ok (some h₀))
    (htrace₀ : h₀.report.trace = .ok t₀) :
    let env := (r.among h.admitted c).env engine f
    (∀ past m later acts, h.report.moments = past ++ m :: later →
      acts ++ [.cancel f.id] <+: c.acts h.admitted.run.run (past ++ [m]) →
        ∃ now, h.admitted.tables.after acts = some now ∧ (now.cancel f.id).1 = true ∧
          (now.cancel f.id).2.isCancelled h.admitted.run = true) ∧
      (∀ moments, env.cancels moments = true ↔ .cancel f.id ∈ c.acts h.admitted.run.run moments) ∧
      ∃ ingress order, Validator.ingressNodes engine.registry f = [ingress] ∧ executionOrder? f ingress = some order ∧
        (∀ started n later, order = started ++ n :: later →
          CancelledAfter env (begun env r.openCircuits) started → CutShort f started t t₀) ∧
          ((∀ started n later, order = started ++ n :: later →
            ¬ CancelledAfter env (begun env r.openCircuits) started) → t = t₀) := by
  intro env
  obtain ⟨hletIn, hrun⟩ := Engine.of_host hhost
  obtain ⟨hletIn₀, hrun₀⟩ := Engine.of_host hhost₀
  have hbegins := (Admission.sound_of_after hearlier).begins hletIn
  have hsame : h₀.admitted = h.admitted := Option.some.inj (hletIn₀.symm.trans hletIn)
  have hcalm : r.among h₀.admitted (c.sparing f.id) = (r.among h.admitted c).uncancelled := by
    rw [hsame, Request.among, hbegins.isCancelled_sparing]
    rfl
  refine ⟨fun past m later acts _ hacts => ?_, hbegins.isCancelled_iff c,
    cutShort_or_eq hbuiltin hrun htrace (hcalm ▸ hrun₀) htrace₀⟩
  obtain ⟨now, hnow, -, hcancel⟩ := hbegins.on ((List.prefix_append acts _).trans hacts)
  exact ⟨now, hnow, hcancel⟩

/-- A call that fails twice, and a handler that may try it twice more. -/
def patient : Flow where
  id := "patient"
  name := "Patient"
  nodes := [Kind.ingress.node "start" [],
    Kind.connector.node "call" [("connectorId", .text "api"), ("endpointId", .text "call"),
      ("failureMode", .text "error"), ("failAttempts", .int 2), ("retries", .int 0)],
    Kind.errorHandler.node "handler" [("strategy", .text "retry"), ("maxRetries", .int 2), ("backoffMs", .int 0)],
    Kind.serviceBox.node "done" [],
    Kind.transform.node "alert" [("transformType", .text "jsonpath"), ("code", .text "$")]]
  edges := [{ id := "1", source := "start", target := "call" },
    { id := "2", source := "call", target := "handler", sourcePort? := some "error" },
    { id := "3", source := "handler", target := "done", sourcePort? := some "handled" },
    { id := "4", source := "handler", target := "alert", sourcePort? := some "unhandled" }]
  createdAt := default
  updatedAt := default

def patientRun : Request where
  input := .object []
  execution := "run"
  observed := true

/-- The run is cancelled as soon as its handler tries again. -/
def impatient : Company where
  during moments :=
    if (moments.getLast?.bind Moment.event?).any (·.type == .nodeRetry) then [.cancel "patient"] else []

/-- The handler gives up after the first of its two attempts, and the run ends with its step. -/
theorem trace_of_patientRun : ∃ h t h₀ t₀, Engine.host {} {} patient patientRun impatient = .ok (some h) ∧
    h.report.trace = .ok t ∧ Engine.host {} {} patient patientRun (impatient.sparing "patient") = .ok (some h₀) ∧
      h₀.report.trace = .ok t₀ ∧ t.steps.length = 4 ∧ t₀.steps.length = 7 ∧
        CutShort patient (patient.nodes.take 3) t t₀ ∧
          BeginsLike (IsGivingUpStep patient (patient.nodes.take 3)) t.steps t₀.steps ∧
            ∃ past later now e, h.report.moments = past ++ .published e :: later ∧ e.type = .nodeRetry ∧
              h.admitted.tables.after (impatient.acts h.admitted.run.run past) = some now ∧
                (now.cancel "patient").1 = true := by
  have valid : patient.Valid .builtin := by
    decide
  let admitted : Admitted := ⟨⟨0, "patient", 0, .executing 1⟩, ({} : Admission).start "patient"⟩
  obtain ⟨h, hhost, hadmitted, hrun⟩ :=
    @Engine.exists_host {} {} Admission.sound_empty patient valid patientRun impatient admitted rfl
  obtain ⟨h₀, hhost₀, -, hrun₀⟩ :=
    @Engine.exists_host {} {} Admission.sound_empty patient valid patientRun (impatient.sparing "patient") admitted rfl
  obtain ⟨report, s, hrun', htrace, hlength, hretried⟩ :=
    @exists_trace_of_isOk {} patient (patientRun.among admitted impatient)
      (fun s => s.records.length = 4 ∧ (s.records.map (·.retryCount)).sum = 1) valid
      (by decide +kernel) (by decide +kernel)
  obtain ⟨report₀, s₀, hrun₀', htrace₀, hlength₀⟩ :=
    @exists_trace_of_isOk {} patient (patientRun.among admitted (impatient.sparing "patient"))
      (fun s => s.records.length = 7) valid (by decide +kernel) (by decide +kernel)
  cases hrun.symm.trans hrun'
  cases hrun₀.symm.trans hrun₀'
  obtain ⟨hcancel, -, ingress, order, hingress, horder, hcut, -⟩ :=
    @trace_of_cancelled_run {} [] {} patient patientRun impatient h h₀ _ _ rfl rfl hhost htrace hhost₀ htrace₀
  have hstart : ingress = Kind.ingress.node "start" [] := (List.singleton_inj.1 hingress).symm
  subst hstart
  have horder' : executionOrder? patient (Kind.ingress.node "start" []) = some patient.nodes := rfl
  cases horder.symm.trans horder'
  have hafter : CancelledAfter ((patientRun.among h.admitted impatient).env {} patient)
      (begun ((patientRun.among h.admitted impatient).env {} patient) []) (patient.nodes.take 3) := by
    rw [hadmitted]
    exact cancelledAfter_of_check (by decide +kernel)
  have hshort := hcut (patient.nodes.take 3) _ _ rfl hafter
  have hspares : patient.SparesSources := fun e he => Edge.sparesSource_of_no_transform fun m hm => by
    have hnone : ∀ e ∈ patient.edges, e.data.mapping = [] := by
      decide
    rw [hnone e he] at hm
    cases hm
  refine ⟨h, _, h₀, _, hhost, htrace, hhost₀, htrace₀, (List.length_map _).trans hlength,
    (List.length_map _).trans hlength₀, hshort, hshort.steps hspares, ?_⟩
  -- The one retry was published; this is when the run is cancelled.
  obtain ⟨middle, last, hevents, -, -, hcount, -⟩ := exists_events rfl hrun htrace rfl
  have hone : middle.countP (·.type == .nodeRetry) = 1 := by
    rw [hcount]
    unfold traceOf
    rw [List.map_map]
    exact hretried
  obtain ⟨e, he, htype⟩ := List.countP_pos_iff.1 (Nat.lt_of_lt_of_eq Nat.one_pos hone.symm)
  have hmem : e ∈ h.report.events := hevents ▸ List.mem_append_left _ (List.mem_cons_of_mem _ he)
  obtain ⟨m, hm, hevent⟩ := List.mem_filterMap.1 hmem
  cases m with
  | suspended => cases hevent
  | published e =>
    cases hevent
    obtain ⟨past, later, hmoments⟩ := List.append_of_mem hm
    have hduring : impatient.during (past ++ [.published e]) = [.cancel "patient"] := by
      simp [impatient, Moment.event?, htype]
    have hacts : impatient.acts h.admitted.run.run past ++ [.cancel "patient"] <+:
        impatient.acts h.admitted.run.run (past ++ [.published e]) := by
      rw [Company.acts_concat, hduring]
      exact List.prefix_refl _
    obtain ⟨now, hnow, hfound, -⟩ := hcancel past _ later _ hmoments hacts
    exact ⟨past, later, now, e, hmoments, by simpa using htype, hnow, hfound⟩

/-- The first mapping of an edge takes an object out of the output of `box`, and the second one writes into it. -/
def overwriting : Flow where
  id := "overwriting"
  name := "Overwriting"
  nodes := [Kind.ingress.node "start" [], Kind.serviceBox.node "box" [], Kind.serviceBox.node "done" []]
  edges := [{ id := "1", source := "start", target := "box" },
    { id := "2", source := "box", target := "done",
      data := { mapping := [
        { id := "1", sourceField := "a", targetField := "x", kind := .transform, transform? := some "value" },
        { id := "2", targetField := "x.y", kind := .static, staticValue := .int 1 }] } }]
  createdAt := default
  updatedAt := default

def overwritingRun : Request where
  input := .object [(.text "a", .object [])]
  execution := "run"
  observed := true

/-- The run is cancelled when the step of `box` is published, the third event. -/
def interrupting : Company where
  during moments := if moments.length = 3 then [.cancel "overwriting"] else []

/-- The output of a step is what the run was started with. -/
def isIntact (x : Step) : Bool :=
  x.output.eq overwritingRun.input

/-- When the run goes on, the step of `box` is not the one that it has when the run is cancelled after it. -/
theorem steps_of_overwritten : ∃ h t h₀ t₀,
    Engine.host {} {} overwriting overwritingRun interrupting = .ok (some h) ∧ h.report.trace = .ok t ∧
    Engine.host {} {} overwriting overwritingRun (interrupting.sparing "overwriting") = .ok (some h₀) ∧
      h₀.report.trace = .ok t₀ ∧
      executionOrder? overwriting (Kind.ingress.node "start" []) = some overwriting.nodes ∧
        CancelledAfter ((overwritingRun.among h.admitted interrupting).env {} overwriting)
          (begun ((overwritingRun.among h.admitted interrupting).env {} overwriting) []) (overwriting.nodes.take 2) ∧
          t.steps.map isIntact = [true, true] ∧ t₀.steps.map isIntact = [true, false, false] ∧
            ¬ BeginsLike (IsGivingUpStep overwriting (overwriting.nodes.take 2)) t.steps t₀.steps := by
  have valid : overwriting.Valid .builtin := by
    decide
  let admitted : Admitted := ⟨⟨0, "overwriting", 0, .executing 1⟩, ({} : Admission).start "overwriting"⟩
  obtain ⟨h, hhost, hadmitted, hrun⟩ :=
    @Engine.exists_host {} {} Admission.sound_empty overwriting valid overwritingRun interrupting admitted rfl
  obtain ⟨h₀, hhost₀, -, hrun₀⟩ := @Engine.exists_host {} {} Admission.sound_empty overwriting valid overwritingRun
    (interrupting.sparing "overwriting") admitted rfl
  obtain ⟨report, s, hrun', htrace, hintact, hsuccess⟩ :=
    @exists_trace_of_isOk {} overwriting (overwritingRun.among admitted interrupting)
      (fun s => s.records.map (fun r => isIntact (r.toStep s.documents)) = [true, true] ∧
        ∀ r ∈ s.records, r.status = .success) valid (by decide +kernel) (by decide +kernel)
  obtain ⟨report₀, s₀, hrun₀', htrace₀, hintact₀⟩ :=
    @exists_trace_of_isOk {} overwriting (overwritingRun.among admitted (interrupting.sparing "overwriting"))
      (fun s => s.records.map (fun r => isIntact (r.toStep s.documents)) = [true, false, false])
      valid (by decide +kernel) (by decide +kernel)
  cases hrun.symm.trans hrun'
  cases hrun₀.symm.trans hrun₀'
  have hafter : CancelledAfter ((overwritingRun.among h.admitted interrupting).env {} overwriting)
      (begun ((overwritingRun.among h.admitted interrupting).env {} overwriting) []) (overwriting.nodes.take 2) := by
    rw [hadmitted]
    exact cancelledAfter_of_check (by decide +kernel)
  have hintact : (traceOf ((overwritingRun.among admitted interrupting).env {} overwriting) s none).steps.map isIntact =
      [true, true] := (List.map_map ..).trans hintact
  have hintact₀ : (traceOf ((overwritingRun.among admitted (interrupting.sparing "overwriting")).env {} overwriting) s₀
      none).steps.map isIntact = [true, false, false] := (List.map_map ..).trans hintact₀
  refine ⟨h, _, h₀, _, hhost, htrace, hhost₀, htrace₀, rfl, hafter, hintact, hintact₀, ?_⟩
  -- A run that goes on would have to keep the intact inputs, and none of the steps is one of giving up.
  rintro ⟨common, hcommon, hsteps | ⟨own, hown, -, herror⟩⟩
  · have hbegins := hcommon.map isIntact
    rw [← hsteps, hintact, hintact₀] at hbegins
    exact absurd hbegins (by decide)
  · obtain ⟨r, hr, rfl⟩ := List.mem_map.1 (hown ▸ List.mem_append_right common List.mem_cons_self)
    rw [show (r.toStep s.documents).status = r.status from rfl, hsuccess r hr] at herror
    cases herror

end Run

end IntegrationFlow
