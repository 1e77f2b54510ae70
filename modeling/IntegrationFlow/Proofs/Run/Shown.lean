import IntegrationFlow.Proofs.Run.Serial

/-!
# Lanes are what the tables of an engine show

The lane of a flow and the run of the flow that is on can be read off the tables of an engine (`lane`, `active?`). What
happens to the engine happens to its lanes (`Shows.after`): so the tables and the lanes agree at any time, and what is
known of the one is known of the other. With it goes what is known of the tables at any time (`orderly_after`).
-/

namespace IntegrationFlow.Run.Admission

/-- The lane of a flow. -/
def lane (s : Admission) (flow : String) : Lane where
  holder? := ((s.runsOf flow).find? (·.phase.isExecuting)).map Pending.run
  waiting := ((s.runsOf flow).filter (!·.phase.isExecuting)).map Pending.run
  users := (s.runsOf flow).length

/-- The run of a flow that is on. -/
def active? (s : Admission) (flow : String) : Option Active :=
  ((s.runsOf flow).find? (·.phase.isExecuting)).map fun p => ⟨p.run, s.isCancelled p⟩

/-- The lanes of an engine are what its tables show. -/
structure Shows (s : Admission) (l : Lanes) : Prop where
  lane : ∀ flow, l.lane flow = s.lane flow
  active : ∀ flow, l.active.lookup flow = s.active? flow

/-- What is done to the lanes when several things happen to an engine. -/
def moves (s : Admission) : List Act → List Lanes.Act
  | [] => []
  | a :: acts => (a.move s).toList ++ ((a.apply s).map (moves · acts)).getD []

variable {s t : Admission} {flow other : String} {p q : Pending} {lock flag : Nat} {waiting : List Pending} {l : Lanes}

/-! ### The lane of a flow in its conditions -/

theorem Idle.lane (h : s.Idle flow) : s.lane flow = {} ∧ s.active? flow = none := by
  unfold Admission.lane active?
  rw [h.runs]
  exact ⟨rfl, rfl⟩

theorem Free.lane (h : s.Free flow lock waiting) :
    s.lane flow = ⟨none, waiting.map Pending.run, waiting.length⟩ ∧ s.active? flow = none := by
  unfold Admission.lane active?
  rw [h.runs, find?_of_waits h.waits, filter_of_waits h.waits]
  exact ⟨rfl, rfl⟩

theorem Held.lane (h : s.Held flow lock flag p waiting) :
    s.lane flow = ⟨some p.run, waiting.map Pending.run, waiting.length + 1⟩ ∧
      s.active? flow = some ⟨p.run, s.raised flag⟩ := by
  have hcancelled : s.isCancelled p = s.raised flag := by simp [isCancelled, h.on]
  unfold Admission.lane active?
  rw [h.runs, List.find?_cons_of_pos (by exact h.isExecuting), List.filter_cons_of_neg (by simp [h.isExecuting]),
    filter_of_waits h.waits, Option.map_some, Option.map_some, hcancelled, List.length_cons]
  exact ⟨rfl, rfl⟩

/-- A flow to which nothing happens keeps its lane. -/
theorem Same.lane (h : Same flow s t) (hordered : s.Ordered flow) :
    t.lane flow = s.lane flow ∧ t.active? flow = s.active? flow := by
  cases hordered with
  | idle hidle =>
    have hidle' := hidle.of_alike h.toAlike
    rw [hidle'.lane.1, hidle'.lane.2, hidle.lane.1, hidle.lane.2]
    exact ⟨rfl, rfl⟩
  | free hfree =>
    have hfree' := hfree.of_alike h.toAlike
    rw [hfree'.lane.1, hfree'.lane.2, hfree.lane.1, hfree.lane.2]
    exact ⟨rfl, rfl⟩
  | held hheld =>
    have hheld' := hheld.of_alike h.toAlike
    rw [hheld'.lane.1, hheld'.lane.2, hheld.lane.1, hheld.lane.2, h.raised _ hheld.flags]
    exact ⟨rfl, rfl⟩

/-! ### What happens to an engine happens to its lanes -/

/-- The tables still show the lanes when one flow has the lane that the tables show. -/
theorem Shows.step {l' : Lanes} (h : s.Shows l) (hsound : s.Sound) (hstep : Step flow s t)
    (hbecomes : Lanes.Becomes l l' flow (t.lane flow) (t.active? flow)) : t.Shows l' where
  lane other := by
    rw [hbecomes.lane]
    split
    · next ho => rw [ho]
    · next ho => rw [h.lane, ((hstep.others other ho).lane (hsound.ordered other)).1]
  active other := by
    rw [hbecomes.active]
    split
    · next ho => rw [ho]
    · next ho => rw [h.active, ((hstep.others other ho).lane (hsound.ordered other)).2]

theorem Shows.start (h : s.Shows l) (hsound : s.Sound) (hl : l.Sound) (flow : String) :
    (s.start flow).Shows (l.start flow s.started) := by
  refine h.step hsound (hsound.step_start flow) ?_
  have hlane := h.lane flow
  have hactive := h.active flow
  have hcounts := hl.counts flow
  cases hsound.ordered flow with
  | idle hidle =>
    have hraised : (s.start flow).raised (s.made + 1) = false := by
      rw [hidle.start_eq_begin]
      exact Table.put_self _ _ _
    rw [hidle.start.lane.1, hidle.start.lane.2, hraised]
    exact Lanes.becomes_start_of_empty (hlane.trans hidle.lane.1)
  | free hfree =>
    have hnew := hfree.start (hsound.lock_lt hfree.locks)
    rw [hfree.lane.1] at hlane
    rw [hfree.lane.2] at hactive
    -- Somebody else is ahead in the lane, so the new run joins its queue.
    have hbecomes : Lanes.Becomes l (l.start flow s.started) flow _ _ :=
      Lanes.becomes_start_of_busy hcounts (by simp [hlane, hfree.ne_nil])
    rw [hlane, hactive] at hbecomes
    rw [hnew.lane.1, hnew.lane.2]
    simpa using hbecomes
  | held hheld =>
    have hlt := hsound.lock_lt hheld.locks
    have hnew := hheld.start hlt
    have hraised : (s.start flow).raised = s.raised := by
      rw [start_eq_setLock hheld.locks hlt hheld.isFree_eq_false]
      rfl
    rw [hheld.lane.1] at hlane
    rw [hheld.lane.2] at hactive
    have hbecomes : Lanes.Becomes l (l.start flow s.started) flow _ _ :=
      Lanes.becomes_start_of_busy hcounts (by simp [hlane])
    rw [hlane, hactive] at hbecomes
    rw [hnew.lane.1, hnew.lane.2, hraised]
    simpa using hbecomes

theorem Shows.begin (h : s.Shows l) (hsound : s.Sound) (hl : l.Sound) (hp : p ∈ s.pending)
    (hnext : s.canBegin p = true) : (s.begin p).Shows (l.acquire p.flow) := by
  refine h.step hsound (hsound.step_begin hp hnext) ?_
  obtain ⟨waiting, hfree⟩ := hsound.exists_free hp hnext
  have hheld := hfree.begin hsound.numbered
  have hraised : (s.begin p).raised s.made = false := Table.put_self _ _ _
  rw [hheld.lane.1, hheld.lane.2, hraised]
  exact Lanes.becomes_acquire ((h.lane p.flow).trans hfree.lane.1) (hl.counts p.flow)

theorem Shows.finish (h : s.Shows l) (hsound : s.Sound) (hl : l.Sound) (hp : p ∈ s.pending)
    (hon : p.phase.isExecuting = true) (ht : s.finish p = some t) : t.Shows (l.finish p.flow) := by
  obtain ⟨flag, waiting, hheld⟩ := hsound.exists_held hp hon
  obtain ⟨u, hu, hleft, hcases⟩ := hheld.finish hsound.numbered
  obtain ⟨u', -, -, hu', -, hstep⟩ := hsound.step_finish hp hon
  obtain rfl : u = t := Option.some.inj (hu.symm.trans ht)
  obtain rfl : u' = u := Option.some.inj (hu'.symm.trans hu)
  refine h.step hsound hstep ?_
  have hbecomes := Lanes.becomes_finish ((h.lane p.flow).trans hheld.lane.1) (hl.counts p.flow)
  rcases hcases with ⟨rfl, hidle⟩ | hfree
  · rw [hidle.lane.1, hidle.lane.2]
    exact hbecomes
  · rw [hfree.lane.1, hfree.lane.2]
    exact hbecomes

/-- A run that gives up leaves no gap in the queue of a lane. -/
private theorem becomes_of_abandon {holder? : Option Nat} (more : Nat) {active? : Option Active}
    (hcounts : (l.lane flow).Counts) (hlane : l.lane flow = ⟨holder?, waiting.map Pending.run, waiting.length + more⟩)
    (hactive : l.active.lookup flow = active?) (hruns : waiting.Pairwise (·.run < ·.run)) (hmem : p ∈ waiting) :
    Lanes.Becomes l (l.abandon flow p.run) flow
      ⟨holder?, (without waiting p.run).map Pending.run, (without waiting p.run).length + more⟩ active? := by
  have hqueued : p.run ∈ (l.lane flow).waiting := by
    rw [hlane]
    exact List.mem_map_of_mem hmem
  have hbecomes := Lanes.becomes_abandon hcounts hqueued
  rw [hlane, hactive, ← map_run_without hruns, ← length_without hruns hmem] at hbecomes
  have husers : (without waiting p.run).length + 1 + more - 1 = (without waiting p.run).length + more := by omega
  rwa [husers] at hbecomes

theorem Shows.abandon (h : s.Shows l) (hsound : s.Sound) (hl : l.Sound) (hp : p ∈ s.pending)
    (hwaits : p.phase.isExecuting = false) (ht : s.abandon p = some t) : t.Shows (l.abandon p.flow p.run) := by
  obtain ⟨u, -, -, hu, -, hstep⟩ := hsound.step_abandon hp hwaits
  obtain rfl : u = t := Option.some.inj (hu.symm.trans ht)
  refine h.step hsound hstep ?_
  have hlane := h.lane p.flow
  have hactive := h.active p.flow
  cases hsound.place hp with
  | waits hfree hmem =>
    obtain ⟨u', hu', -, hcases⟩ := hfree.abandon hmem hsound.numbered
    obtain rfl : u' = u := Option.some.inj (hu'.symm.trans hu)
    have hbecomes := becomes_of_abandon 0 (hl.counts p.flow) (hlane.trans hfree.lane.1)
      (hactive.trans hfree.lane.2) (hfree.pairwise hsound.numbered) hmem
    -- The last one that waits leaves the lane as if there had never been a run.
    rcases hcases with ⟨hnil, hidle⟩ | hafter
    · rw [hidle.lane.1, hidle.lane.2]
      rwa [hnil] at hbecomes
    · rw [hafter.lane.1, hafter.lane.2]
      exact hbecomes
  | on hheld =>
    rw [hheld.isExecuting] at hwaits
    cases hwaits
  | behind hheld hmem =>
    obtain ⟨u', hu', hleft, hafter⟩ := hheld.abandon hmem hsound.numbered
    obtain rfl : u' = u := Option.some.inj (hu'.symm.trans hu)
    rw [hafter.lane.1, hafter.lane.2, hleft.raised]
    exact becomes_of_abandon 1 (hl.counts p.flow) (hlane.trans hheld.lane.1) (hactive.trans hheld.lane.2)
      (hheld.pairwise hsound.numbered).2 hmem

theorem Shows.cancel (h : s.Shows l) (hsound : s.Sound) (flow : String) :
    (s.cancel flow).2.Shows (l.cancel flow).2 := by
  refine h.step hsound (hsound.step_cancel flow) ?_
  have hbecomes := Lanes.becomes_cancel l flow
  rw [h.lane, h.active] at hbecomes
  have hruns : (s.cancel flow).2.runsOf flow = s.runsOf flow := by
    unfold runsOf
    rw [cancel_pending]
  have hlane : (s.cancel flow).2.lane flow = s.lane flow := by
    unfold Admission.lane
    rw [hruns]
  have hactive : (s.cancel flow).2.active? flow = (s.active? flow).map fun a => { a with cancelled := true } := by
    unfold active?
    rw [hruns, Option.map_map]
    refine Option.map_congr fun p hp => ?_
    obtain ⟨hmem, hflow⟩ := mem_runsOf.1 (List.mem_of_find?_eq_some hp)
    have hon : p.phase.isExecuting = true := by simpa using List.find?_some hp
    simp [hsound.isCancelled_cancel hmem, hflow, hon]
  rw [hlane, hactive]
  exact hbecomes

variable {a : Act} {result : Option Admission} {move? : Option Lanes.Act}

theorem Shows.outcome (h : s.Shows l) (hsound : s.Sound) (hl : l.Sound) (houtcome : s.Outcome a result move?)
    (ht : result = some t) : t.Shows (l.after move?.toList) := by
  cases houtcome with
  | start flow =>
    cases ht
    exact h.start hsound hl flow
  | begin hp hnext =>
    cases ht
    exact h.begin hsound hl hp hnext
  | finish hp hon => exact h.finish hsound hl hp hon ht
  | abandon hp hwaits => exact h.abandon hsound hl hp hwaits ht
  | cancel flow =>
    cases ht
    exact h.cancel hsound flow
  | nothing =>
    cases ht
    exact h

/-- The tables show the lanes at any time. -/
theorem Shows.after (h : s.Shows l) (hsound : s.Sound) (hl : l.Sound) {acts : List Act} (ht : s.after acts = some t) :
    t.Shows (l.after (s.moves acts)) := by
  induction acts generalizing s l with
  | nil =>
    cases ht
    exact h
  | cons a acts ih =>
    obtain ⟨u, hu, hsound'⟩ := hsound.apply a
    have hmoves : s.moves (a :: acts) = (a.move s).toList ++ u.moves acts := by simp [moves, hu]
    rw [after_cons, hu, Option.bind_some] at ht
    rw [hmoves, Lanes.after, List.foldl_append]
    exact ih (h.outcome hsound hl (outcome_apply s a) hu) hsound' (hl.after _) ht

theorem shows_empty : ({} : Admission).Shows {} :=
  ⟨fun _ => rfl, fun _ => rfl⟩

/-- Whatever happens to an engine, no key is missing in its tables and no lock is released that is not held; the runs of
a flow take turns in the order in which they were started, and nothing but a cancellation of its flow while it is on
cancels a run. The tables show the lanes of the engine. -/
theorem orderly_after (acts : List Act) :
    ∃ s, ({} : Admission).after acts = some s ∧ s.Orderly ∧
      (∀ a, ∃ t, a.apply s = some t ∧ CancelsOnly a s t) ∧
      (∀ more, ∃ t, s.after more = some t ∧
        ∀ p ∈ s.pending, p.phase.isExecuting = true →
          ∀ q ∈ t.pending, q.phase.isExecuting = true → q.flow = p.flow → p.run ≤ q.run) ∧
      s.Shows (({} : Lanes).after (({} : Admission).moves acts)) := by
  obtain ⟨s, hs, hsound⟩ := sound_empty.after acts
  refine ⟨s, hs, hsound.orderly, fun a => ?_, fun more => ?_, shows_empty.after sound_empty Lanes.sound_empty hs⟩
  · obtain ⟨t, ht, -⟩ := hsound.apply a
    exact ⟨t, ht, hsound.cancelsOnly_of_outcome (outcome_apply s a) ht⟩
  · obtain ⟨t, ht, -⟩ := hsound.after more
    refine ⟨t, ht, fun p hp hon q hq _ hflow => ?_⟩
    rcases (hsound.later_after ht).pending q hq with ⟨r, hr, hrun, hflow'⟩ | hnew
    · by_cases heq : r = p
      · exact Nat.le_of_eq ((congrArg Pending.run heq).symm.trans hrun)
      · rw [← hrun]
        exact Nat.le_of_lt (hsound.first hp hon hr (hflow'.trans hflow) heq).2
    · exact Nat.le_trans (Nat.le_of_lt (hsound.numbered.below p hp)) hnew

/-- The second run of a flow is not cancelled by a cancellation of the first one for which it waited. -/
example : (({} : Admission).after [.start "loop", .start "loop", .cancel "loop", .finish 0, .acquire 1]).map
    (fun s => (s.isRunning "loop", s.users "loop", s.pending.map s.isCancelled)) = some (true, some 1, [false]) := by
  decide

end IntegrationFlow.Run.Admission
