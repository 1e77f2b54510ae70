import IntegrationFlow.Proofs.Run.Admission
import IntegrationFlow.Proofs.Run.Lanes

/-!
# Runs of one flow take turns

Whatever happens to an engine, the runs of a flow are on one at a time and in the order in which they were started, and
they wait for nothing but runs of their flow (`Sound.orderly`). A cancellation reaches the run that is on and no other
(`Sound.cancelsOnly_of_outcome`), and no run that is on later was started earlier (`Sound.later_after`).
-/

namespace IntegrationFlow.Run.Admission

/-- Runs of one flow take turns, and the tables of the engine know just the flows that have runs. -/
structure Orderly (s : Admission) : Prop where
  /-- No two runs of a flow are on: all others wait for the one that is, and were started after it. -/
  first : ∀ p ∈ s.pending, p.phase.isExecuting = true →
    ∀ q ∈ s.pending, q.flow = p.flow → q ≠ p → q.phase = .waiting ∧ p.run < q.run
  /-- The turn of a run has come when no run of its flow is on or was started before it and waits. -/
  canBegin_iff : ∀ p ∈ s.pending,
    (s.canBegin p = true ↔ ∀ q ∈ s.pending, q.flow = p.flow → q.phase = .waiting ∧ p.run ≤ q.run)
  /-- A run that is started begins at once when its flow has no other run. -/
  start_iff : ∀ flow,
    (∃ p ∈ (s.start flow).pending, p.run = s.started ∧ p.phase.isExecuting = true) ↔ ∀ q ∈ s.pending, q.flow ≠ flow
  isRunning_iff : ∀ flow, s.isRunning flow = true ↔ ∃ p ∈ s.pending, p.flow = flow ∧ p.phase.isExecuting = true
  /-- A cancellation finds the run of the flow that is on, and does nothing to others. -/
  cancel : ∀ flow, (s.cancel flow).1 = s.isRunning flow ∧ (s.cancel flow).2.pending = s.pending ∧
    ∀ p ∈ s.pending,
      (s.cancel flow).2.isCancelled p = (s.isCancelled p || (p.flow == flow && p.phase.isExecuting))
  /-- The lock of a flow is the one that its runs hold or wait for. -/
  locks_iff : ∀ flow l, s.locks flow = some l ↔ ∃ p ∈ s.pending, p.flow = flow ∧ p.lock = l
  /-- A lock is held by the run that is on, and the runs that wait for it are those of the flow that wait. -/
  lockAt : ∀ p ∈ s.pending, s.lockAt p.lock =
    ⟨(s.runsOf p.flow).any (·.phase.isExecuting),
      ((s.runsOf p.flow).filter (!·.phase.isExecuting)).map Pending.run⟩
  flow_eq_of_lock : ∀ p ∈ s.pending, ∀ q ∈ s.pending, p.lock = q.lock → p.flow = q.flow
  users : ∀ flow, s.users flow = if s.runsOf flow = [] then none else some ((s.runsOf flow).length : Int)
  /-- Nothing stays behind. -/
  empty : s.pending = [] → ∀ flow, s.locks flow = none ∧ s.users flow = none ∧ s.flags flow = none

variable {s t : Admission} {flow other : String} {p q : Pending} {lock flag : Nat} {waiting : List Pending}

/-! ### What a condition says about the runs of its flow -/

theorem Held.isExecuting (h : s.Held flow lock flag p waiting) : p.phase.isExecuting = true := by
  rw [h.on]
  rfl

theorem any_of_waits (h : ∀ q ∈ waiting, q.Waits lock) : waiting.any (·.phase.isExecuting) = false := by
  refine List.any_eq_false.2 fun q hq => ?_
  rw [(h q hq).isExecuting]
  exact Bool.false_ne_true

theorem filter_of_waits (h : ∀ q ∈ waiting, q.Waits lock) : waiting.filter (!·.phase.isExecuting) = waiting := by
  refine List.filter_eq_self.2 fun q hq => ?_
  rw [(h q hq).isExecuting]
  rfl

theorem find?_of_waits (h : ∀ q ∈ waiting, q.Waits lock) : waiting.find? (·.phase.isExecuting) = none := by
  refine List.find?_eq_none.2 fun q hq => ?_
  rw [(h q hq).isExecuting]
  exact Bool.false_ne_true

theorem Free.mem_pending (h : s.Free flow lock waiting) (hq : q ∈ waiting) : q ∈ s.pending ∧ q.flow = flow :=
  mem_runsOf.1 (h.runs ▸ hq)

theorem Held.mem_pending (h : s.Held flow lock flag p waiting) (hq : q ∈ p :: waiting) :
    q ∈ s.pending ∧ q.flow = flow :=
  mem_runsOf.1 (h.runs ▸ hq)

/-- The flag of a run that is on is the one that the table has for its flow. -/
theorem Sound.flags_of_executing (h : s.Sound) (hp : p ∈ s.pending) (hphase : p.phase = .executing flag) :
    s.flags p.flow = some flag := by
  obtain ⟨flag', waiting, hheld⟩ := h.exists_held hp (by rw [hphase]; rfl)
  obtain rfl : flag' = flag := by simpa using hheld.on.symm.trans hphase
  exact hheld.flags

/-! ### Turns -/

theorem Sound.first (h : s.Sound) (hp : p ∈ s.pending) (hon : p.phase.isExecuting = true) (hq : q ∈ s.pending)
    (hflow : q.flow = p.flow) (hne : q ≠ p) : q.phase = .waiting ∧ p.run < q.run := by
  obtain ⟨flag, waiting, hheld⟩ := h.exists_held hp hon
  have hruns := hheld.pairwise h.numbered
  have hmem : q ∈ p :: waiting := hheld.runs ▸ mem_runsOf.2 ⟨hq, hflow⟩
  have hmem' : q ∈ waiting := (List.mem_cons.1 hmem).resolve_left hne
  exact ⟨(hheld.waits q hmem').phase, hruns.1 q hmem'⟩

theorem Sound.canBegin_iff (h : s.Sound) (hp : p ∈ s.pending) :
    s.canBegin p = true ↔ ∀ q ∈ s.pending, q.flow = p.flow → q.phase = .waiting ∧ p.run ≤ q.run := by
  constructor
  · intro hcan q hq hflow
    obtain ⟨waiting, hfree⟩ := h.exists_free hp hcan
    have hruns := List.pairwise_cons.1 (hfree.pairwise h.numbered)
    have hmem : q ∈ p :: waiting := hfree.runs ▸ mem_runsOf.2 ⟨hq, hflow⟩
    refine ⟨(hfree.waits q hmem).phase, ?_⟩
    rcases List.mem_cons.1 hmem with rfl | hmem
    · exact Nat.le_refl _
    · exact Nat.le_of_lt (hruns.1 q hmem)
  · intro hfirst
    cases h.place hp with
    | @waits waiting hfree hmem =>
      -- The run that was started first heads the queue of the lock.
      cases waiting with
      | nil => cases hmem
      | cons q waiting =>
        have hruns := List.pairwise_cons.1 (hfree.pairwise h.numbered)
        obtain ⟨hq, hflow⟩ := hfree.mem_pending List.mem_cons_self
        have hhead : q.run = p.run := by
          rcases List.mem_cons.1 hmem with rfl | hmem
          · rfl
          · exact absurd (hfirst q hq hflow).2 (Nat.not_le.2 (hruns.1 p hmem))
        simp [canBegin, Lock.isNext, hfree.lockAt, hhead]
    | on hheld =>
      have hwaits := (hfirst p hp rfl).1
      rw [hheld.on] at hwaits
      cases hwaits
    | behind hheld =>
      obtain ⟨hq, hflow⟩ := hheld.mem_pending List.mem_cons_self
      have hwaits := (hfirst _ hq hflow).1
      rw [hheld.on] at hwaits
      cases hwaits

theorem Sound.start_iff (h : s.Sound) (flow : String) :
    (∃ p ∈ (s.start flow).pending, p.run = s.started ∧ p.phase.isExecuting = true) ↔
      ∀ q ∈ s.pending, q.flow ≠ flow := by
  -- A newcomer that waits is the only run of its number.
  have hwaits (lock : Nat) (hnew : ⟨s.started, flow, lock, .waiting⟩ ∈ (s.start flow).runsOf flow) :
      ¬∃ p ∈ (s.start flow).pending, p.run = s.started ∧ p.phase.isExecuting = true := by
    rintro ⟨p, hp, hrun, hon⟩
    rw [(h.step_start flow).numbered.eq_of_run hp (mem_runsOf.1 hnew).1 hrun] at hon
    cases hon
  cases h.ordered flow with
  | idle hidle =>
    refine iff_of_true ?_ fun q hq hflow => ?_
    · exact ⟨_, (hidle.start.mem_pending List.mem_cons_self).1, rfl, rfl⟩
    · have hmem : q ∈ s.runsOf flow := mem_runsOf.2 ⟨hq, hflow⟩
      rw [hidle.runs] at hmem
      cases hmem
  | @free lock _ hfree =>
    have hnew := hfree.start (h.lock_lt hfree.locks)
    refine iff_of_false (hwaits lock ?_) fun hnone => ?_
    · rw [hnew.runs]
      exact List.mem_append_right _ (List.mem_singleton_self _)
    · obtain ⟨q, hq⟩ := List.exists_mem_of_ne_nil _ hfree.ne_nil
      exact hnone q (hfree.mem_pending hq).1 (hfree.mem_pending hq).2
  | @held lock _ _ _ hheld =>
    have hnew := hheld.start (h.lock_lt hheld.locks)
    refine iff_of_false (hwaits lock ?_) fun hnone => ?_
    · rw [hnew.runs]
      exact List.mem_cons_of_mem _ (List.mem_append_right _ (List.mem_singleton_self _))
    · obtain ⟨hp, hflow⟩ := hheld.mem_pending List.mem_cons_self
      exact hnone _ hp hflow

/-! ### Runs that are on -/

theorem Sound.isRunning_iff (h : s.Sound) (flow : String) :
    s.isRunning flow = true ↔ ∃ p ∈ s.pending, p.flow = flow ∧ p.phase.isExecuting = true := by
  constructor
  · intro hrunning
    cases h.ordered flow with
    | idle hidle => simp [isRunning, hidle.flags] at hrunning
    | free hfree => simp [isRunning, hfree.flags] at hrunning
    | held hheld =>
      obtain ⟨hp, hflow⟩ := hheld.mem_pending List.mem_cons_self
      exact ⟨_, hp, hflow, hheld.isExecuting⟩
  · rintro ⟨p, hp, rfl, hon⟩
    obtain ⟨flag, waiting, hheld⟩ := h.exists_held hp hon
    simp [isRunning, hheld.flags]

/-- A cancellation raises the flag of the run that is on. -/
theorem Sound.isCancelled_cancel (h : s.Sound) (hp : p ∈ s.pending) (flow : String) :
    (s.cancel flow).2.isCancelled p = (s.isCancelled p || (p.flow == flow && p.phase.isExecuting)) := by
  cases hphase : p.phase with
  | waiting => simp [isCancelled, hphase, Phase.isExecuting]
  | executing flag =>
    have hflag := h.flags_of_executing hp hphase
    simp only [isCancelled, hphase, Phase.isExecuting, Bool.and_true]
    unfold cancel
    cases htable : s.flags flow with
    | none =>
      have hne : p.flow ≠ flow := fun heq => by rw [heq, htable] at hflag; cases hflag
      simp [hne]
    | some flag' =>
      by_cases heq : flag = flag'
      · have hflow : p.flow = flow := h.flag_inj hflag (heq ▸ htable)
        simp [heq, hflow]
      · have hne : p.flow ≠ flow := fun hflow => heq (by simpa [hflow, htable] using hflag.symm)
        simp [heq, hne]

theorem cancel_pending (s : Admission) (flow : String) : (s.cancel flow).2.pending = s.pending := by
  unfold Admission.cancel
  split
  · rfl
  · rfl

theorem cancel_started (s : Admission) (flow : String) : (s.cancel flow).2.started = s.started := by
  unfold Admission.cancel
  split
  · rfl
  · rfl

theorem cancel_fst (s : Admission) (flow : String) : (s.cancel flow).1 = s.isRunning flow := by
  unfold Admission.cancel isRunning
  split
  · next hnone => rw [hnone]; rfl
  · next hsome => rw [hsome]; rfl

/-! ### Tables -/

theorem Sound.locks_iff (h : s.Sound) (flow : String) (l : Nat) :
    s.locks flow = some l ↔ ∃ p ∈ s.pending, p.flow = flow ∧ p.lock = l := by
  constructor
  · intro hlocks
    cases h.ordered flow with
    | idle hidle =>
      rw [hidle.locks] at hlocks
      cases hlocks
    | free hfree =>
      obtain ⟨q, hq⟩ := List.exists_mem_of_ne_nil _ hfree.ne_nil
      obtain ⟨hmem, hflow⟩ := hfree.mem_pending hq
      exact ⟨q, hmem, hflow, (hfree.waits q hq).lock.trans (Option.some.inj (hfree.locks.symm.trans hlocks))⟩
    | held hheld =>
      obtain ⟨hmem, hflow⟩ := hheld.mem_pending List.mem_cons_self
      exact ⟨_, hmem, hflow, hheld.holds.trans (Option.some.inj (hheld.locks.symm.trans hlocks))⟩
  · rintro ⟨p, hp, rfl, rfl⟩
    exact h.locks_of_mem hp

theorem Sound.lockAt (h : s.Sound) (hp : p ∈ s.pending) : s.lockAt p.lock =
    ⟨(s.runsOf p.flow).any (·.phase.isExecuting),
      ((s.runsOf p.flow).filter (!·.phase.isExecuting)).map Pending.run⟩ := by
  cases h.place hp with
  | waits hfree => rw [hfree.lockAt, hfree.runs, any_of_waits hfree.waits, filter_of_waits hfree.waits]
  | on hheld | behind hheld =>
    rw [hheld.lockAt, hheld.runs, List.any_cons, hheld.isExecuting, Bool.true_or,
      List.filter_cons_of_neg (by simp [hheld.isExecuting]), filter_of_waits hheld.waits]

theorem Sound.users (h : s.Sound) (flow : String) :
    s.users flow = if s.runsOf flow = [] then none else some ((s.runsOf flow).length : Int) := by
  cases h.ordered flow with
  | idle hidle => rw [hidle.users, if_pos hidle.runs]
  | free hfree => rw [hfree.users, hfree.runs, if_neg hfree.ne_nil]
  | held hheld => rw [hheld.users, hheld.runs, if_neg (List.cons_ne_nil _ _), List.length_cons, Int.natCast_succ]

theorem Sound.idle (h : s.Sound) (hnone : ∀ p ∈ s.pending, p.flow ≠ flow) : s.Idle flow := by
  cases h.ordered flow with
  | idle hidle => exact hidle
  | free hfree =>
    obtain ⟨q, hq⟩ := List.exists_mem_of_ne_nil _ hfree.ne_nil
    exact absurd (hfree.mem_pending hq).2 (hnone q (hfree.mem_pending hq).1)
  | held hheld =>
    obtain ⟨hp, hflow⟩ := hheld.mem_pending List.mem_cons_self
    exact absurd hflow (hnone _ hp)

theorem Sound.orderly (h : s.Sound) : s.Orderly where
  first _ hp hon _ hq hflow hne := h.first hp hon hq hflow hne
  canBegin_iff _ hp := h.canBegin_iff hp
  start_iff := h.start_iff
  isRunning_iff := h.isRunning_iff
  cancel flow := ⟨cancel_fst s flow, cancel_pending s flow, fun _ hp => h.isCancelled_cancel hp flow⟩
  locks_iff := h.locks_iff
  lockAt _ hp := h.lockAt hp
  flow_eq_of_lock _ hp _ hq heq := h.lock_inj (h.locks_of_mem hp) (heq ▸ h.locks_of_mem hq)
  users := h.users
  empty hnil flow := by
    have hidle : s.Idle flow := h.idle fun p hp => by rw [hnil] at hp; cases hp
    exact ⟨hidle.locks, hidle.users, hidle.flags⟩

/-! ### From one time to a later one -/

/-- A run is cancelled by nothing but a cancellation of its flow while it is on. -/
def CancelsOnly (a : Act) (s t : Admission) : Prop :=
  ∀ p ∈ t.pending, t.isCancelled p = true ↔
    p ∈ s.pending ∧ s.isCancelled p = true ∨ a = .cancel p.flow ∧ p.phase.isExecuting = true

/-- A run that has not ended at the later time was started before the earlier one and had not ended then, or it was
started since. -/
structure Later (s t : Admission) : Prop where
  started : s.started ≤ t.started
  pending : ∀ q ∈ t.pending, (∃ p ∈ s.pending, p.run = q.run ∧ p.flow = q.flow) ∨ s.started ≤ q.run

theorem Later.refl (s : Admission) : Later s s :=
  ⟨Nat.le_refl _, fun q hq => .inl ⟨q, hq, rfl, rfl⟩⟩

theorem Later.trans {u : Admission} (h : Later s t) (h' : Later t u) : Later s u where
  started := Nat.le_trans h.started h'.started
  pending q hq := by
    rcases h'.pending q hq with ⟨p, hp, hrun, hflow⟩ | hnew
    · rcases h.pending p hp with ⟨r, hr, hrun', hflow'⟩ | hnew
      · exact .inl ⟨r, hr, hrun'.trans hrun, hflow'.trans hflow⟩
      · exact .inr (hrun ▸ hnew)
    · exact .inr (Nat.le_trans h.started hnew)

theorem start_cases (s : Admission) (flow : String) :
    s.start flow = (s.arrive (s.newcomer flow)).begin (s.newcomer flow) ∨
      ∃ lock l, s.start flow = (s.arrive (s.newcomer flow)).setLock lock l := by
  unfold start
  dsimp only
  split
  · exact .inl rfl
  · exact .inr ⟨_, _, rfl⟩

theorem later_begin (s : Admission) (p : Pending) : Later s (s.begin p) where
  started := Nat.le_refl _
  pending q hq := by
    obtain ⟨r, hr, rfl⟩ := List.mem_map.1 hq
    exact .inl ⟨r, hr, run_begun.symm, flow_begun.symm⟩

theorem later_start (s : Admission) (flow : String) : Later s (s.start flow) := by
  have harrive : Later s (s.arrive (s.newcomer flow)) := by
    refine ⟨Nat.le_succ _, fun q hq => ?_⟩
    rcases List.mem_append.1 hq with hq | hq
    · exact .inl ⟨q, hq, rfl, rfl⟩
    · rw [List.mem_singleton.1 hq]
      exact .inr (Nat.le_refl _)
  rcases start_cases s flow with heq | ⟨lock, l, heq⟩
  · rw [heq]
    exact harrive.trans (later_begin _ _)
  · rw [heq]
    exact ⟨harrive.started, harrive.pending⟩

theorem Left.later {n : Int} (h : Left p n s t) : Later s t where
  started := Nat.le_of_eq h.started.symm
  pending q hq := by
    rw [h.pending] at hq
    exact .inl ⟨q, mem_of_mem_without hq, rfl, rfl⟩

variable {a : Act} {result : Option Admission} {move? : Option Lanes.Act}

theorem Sound.later_of_outcome (h : s.Sound) (houtcome : s.Outcome a result move?) (ht : result = some t) :
    Later s t := by
  cases houtcome with
  | start flow =>
    cases ht
    exact later_start s flow
  | begin hp hnext =>
    cases ht
    exact later_begin s _
  | finish hp hon =>
    obtain ⟨t, n, l, hfinish, hleft, -⟩ := h.step_finish hp hon
    cases hfinish.symm.trans ht
    exact ⟨hleft.later.started, hleft.later.pending⟩
  | abandon hp hwaits =>
    obtain ⟨t, n, l, habandon, hleft, -⟩ := h.step_abandon hp hwaits
    cases habandon.symm.trans ht
    exact ⟨hleft.later.started, hleft.later.pending⟩
  | cancel flow =>
    cases ht
    refine ⟨Nat.le_of_eq (cancel_started s flow).symm, fun q hq => ?_⟩
    rw [cancel_pending] at hq
    exact .inl ⟨q, hq, rfl, rfl⟩
  | nothing =>
    cases ht
    exact .refl s

theorem Sound.later_after (h : s.Sound) {acts : List Act} (ht : s.after acts = some t) : Later s t := by
  induction acts generalizing s with
  | nil =>
    cases ht
    exact .refl _
  | cons a acts ih =>
    obtain ⟨u, hu, hsound⟩ := h.apply a
    rw [after_cons, hu, Option.bind_some] at ht
    exact (h.later_of_outcome (outcome_apply s a) hu).trans (ih hsound ht)

/-! ### Cancellations -/

theorem isCancelled_of_raised (h : t.raised = s.raised) : t.isCancelled p = s.isCancelled p := by
  unfold isCancelled
  rw [h]

/-- A run that begins has a flag that nobody has raised. -/
theorem isCancelled_begin (hlt : ∀ q ∈ s.pending, ∀ c, q.phase = .executing c → c < s.made)
    (hq : q ∈ (s.begin p).pending) :
    (s.begin p).isCancelled q = true ↔ q ∈ s.pending ∧ s.isCancelled q = true := by
  have hold (r : Pending) (hr : r ∈ s.pending) : (s.begin p).isCancelled r = s.isCancelled r := by
    unfold isCancelled
    split
    · rfl
    · next c hphase => exact Table.put_of_ne (Nat.ne_of_lt (hlt r hr c hphase)) _ _
  constructor
  · intro hcancelled
    obtain ⟨r, hr, rfl⟩ := List.mem_map.1 hq
    by_cases hrun : r.run = p.run
    · simp [Pending.begun, hrun, isCancelled, Admission.begin] at hcancelled
    · have hsame : r.begun p.run s.made = r := if_neg hrun
      rw [hsame] at hcancelled ⊢
      exact ⟨hr, hold r hr ▸ hcancelled⟩
  · rintro ⟨hmem, hcancelled⟩
    rw [hold q hmem, hcancelled]

/-- A run that arrives waits, and nobody has cancelled it. -/
theorem isCancelled_start (hlt : ∀ q ∈ s.pending, ∀ c, q.phase = .executing c → c < s.made) {flow : String}
    (hq : q ∈ (s.start flow).pending) :
    (s.start flow).isCancelled q = true ↔ q ∈ s.pending ∧ s.isCancelled q = true := by
  have hnew : s.isCancelled (s.newcomer flow) = false := rfl
  have harrive (r : Pending) : r ∈ (s.arrive (s.newcomer flow)).pending ∧ s.isCancelled r = true ↔
      r ∈ s.pending ∧ s.isCancelled r = true := by
    refine and_congr_left fun hcancelled => ⟨fun hr => ?_, fun hr => List.mem_append_left _ hr⟩
    refine (List.mem_append.1 hr).resolve_right fun hr => ?_
    rw [List.mem_singleton.1 hr, hnew] at hcancelled
    cases hcancelled
  rcases start_cases s flow with heq | ⟨lock, l, heq⟩
  · rw [heq] at hq ⊢
    refine (isCancelled_begin (fun r hr c hphase => ?_) hq).trans (harrive q)
    rcases List.mem_append.1 hr with hr | hr
    · exact Nat.lt_succ_of_lt (hlt r hr c hphase)
    · rw [List.mem_singleton.1 hr] at hphase
      cases hphase
  · rw [heq] at hq ⊢
    exact Iff.trans ⟨fun hcancelled => ⟨hq, hcancelled⟩, And.right⟩ (harrive q)

theorem Left.isCancelled_iff {n : Int} (h : Left p n s t) (hq : q ∈ t.pending) :
    t.isCancelled q = true ↔ q ∈ s.pending ∧ s.isCancelled q = true := by
  rw [isCancelled_of_raised h.raised]
  rw [h.pending] at hq
  exact ⟨fun hcancelled => ⟨mem_of_mem_without hq, hcancelled⟩, And.right⟩

theorem Sound.cancelsOnly_of_outcome (h : s.Sound) (houtcome : s.Outcome a result move?) (ht : result = some t) :
    CancelsOnly a s t := by
  have hlt (q : Pending) (hq : q ∈ s.pending) (c : Nat) (hphase : q.phase = .executing c) : c < s.made :=
    h.flag_lt (h.flags_of_executing hq hphase)
  -- No other act raises a flag: what is cancelled afterwards waited before, with its flag raised.
  have hold {a : Act} {t : Admission} (hne : ∀ flow, a ≠ .cancel flow)
      (hiff : ∀ q ∈ t.pending, t.isCancelled q = true ↔ q ∈ s.pending ∧ s.isCancelled q = true) :
      CancelsOnly a s t :=
    fun q hq => (hiff q hq).trans (or_iff_left fun hcancel => hne _ hcancel.1).symm
  cases houtcome with
  | start flow =>
    cases ht
    exact hold (fun _ h => nomatch h) fun q hq => isCancelled_start hlt hq
  | begin hp hnext =>
    cases ht
    exact hold (fun _ h => nomatch h) fun q hq => isCancelled_begin hlt hq
  | finish hp hon =>
    obtain ⟨t, n, l, hfinish, hleft, -⟩ := h.step_finish hp hon
    cases hfinish.symm.trans ht
    exact hold (fun _ h => nomatch h) fun q hq => hleft.isCancelled_iff hq
  | abandon hp hwaits =>
    obtain ⟨t, n, l, habandon, hleft, -⟩ := h.step_abandon hp hwaits
    cases habandon.symm.trans ht
    exact hold (fun _ h => nomatch h) fun q hq => hleft.isCancelled_iff hq
  | cancel flow =>
    cases ht
    intro q hq
    rw [cancel_pending] at hq
    rw [h.isCancelled_cancel hq, Bool.or_eq_true, Bool.and_eq_true, beq_iff_eq, Act.cancel.injEq]
    exact or_congr (and_iff_right hq).symm (and_congr_left' eq_comm)
  | nothing hne =>
    cases ht
    exact hold hne fun q hq => ⟨fun hcancelled => ⟨hq, hcancelled⟩, And.right⟩

end IntegrationFlow.Run.Admission
