import IntegrationFlow.Run.Lanes
import IntegrationFlow.Table
import Mathlib.Data.List.Basic

/-!
# Lanes stay in order

Whatever is done to the lanes of an engine, every lane counts its runs, and the runs that are on are those that hold
their lanes (`sound_after`). Each thing that is done sets one lane and no other (`Becomes`).
-/

namespace IntegrationFlow.Run

/-- A lane counts the runs that hold it or wait for it. -/
def Lane.Counts (l : Lane) : Prop :=
  l.users = l.waiting.length + l.holder?.toList.length

namespace Lane.Counts

variable {l : Lane} {run : Nat}

private theorem hold (h : l.Counts) (hidle : l.holder? = none) :
    ({ l with holder? := some run, users := l.users + 1 } : Lane).Counts := by
  unfold Lane.Counts at h ⊢
  rw [h, hidle]
  rfl

private theorem wait (h : l.Counts) :
    ({ l with waiting := l.waiting ++ [run], users := l.users + 1 } : Lane).Counts := by
  unfold Lane.Counts at h ⊢
  rw [List.length_append, List.length_singleton]
  dsimp only
  omega

private theorem next {rest : List Nat} (h : l.Counts) (hidle : l.holder? = none) (hwaiting : l.waiting = run :: rest) :
    ({ l with holder? := some run, waiting := rest } : Lane).Counts := by
  unfold Lane.Counts at h ⊢
  rw [h, hidle, hwaiting]
  rfl

private theorem leave (h : l.Counts) (hholder : l.holder? = some run) :
    ({ l with holder? := none, users := l.users - 1 } : Lane).Counts := by
  unfold Lane.Counts at h ⊢
  rw [h, hholder]
  rfl

private theorem giveUp (h : l.Counts) (hmem : run ∈ l.waiting) :
    ({ l with waiting := l.waiting.erase run, users := l.users - 1 } : Lane).Counts := by
  have hlength := List.length_erase_of_mem hmem
  have hpos := List.length_pos_of_mem hmem
  unfold Lane.Counts at h ⊢
  dsimp only
  omega

end Lane.Counts

namespace Lanes

/-- What can be done to the lanes. -/
inductive Act where
  | start (flow : String) (run : Nat)
  | acquire (flow : String)
  | finish (flow : String)
  | abandon (flow : String) (run : Nat)
  | cancel (flow : String)

/-- Do something to the lanes. -/
def Act.apply (s : Lanes) : Act → Lanes
  | .start flow run => s.start flow run
  | .acquire flow => s.acquire flow
  | .finish flow => s.finish flow
  | .abandon flow run => s.abandon flow run
  | .cancel flow => (s.cancel flow).2

/-- The lanes after several things were done to them. -/
def after (s : Lanes) (acts : List Act) : Lanes :=
  acts.foldl Act.apply s

/-- Every lane counts its runs, and the runs that are on are those that hold their lanes. -/
structure Sound (s : Lanes) : Prop where
  counts : ∀ flow, (s.lane flow).Counts
  active : ∀ flow, (s.active.lookup flow).map Active.run = (s.lane flow).holder?

/-! ### Lanes that are set -/

variable {s : Lanes} {flow other : String} {l : Lane} {run : Nat}

/-- A lane that was set is found, and no other changes. -/
theorem lane_setLane (h : l.Counts) : (s.setLane flow l).lane other = if other = flow then l else s.lane other := by
  unfold setLane lane
  split
  · next hnone =>
    -- A lane that is given up is the empty one.
    unfold Lane.Counts at h
    have hempty : l = {} := by
      obtain ⟨holder?, waiting, users⟩ := l
      cases holder? with
      | some run => simp at h hnone; omega
      | none =>
        have hwaiting : waiting = [] := List.length_eq_zero_iff.1 (by simp at h hnone; omega)
        simp at hnone
        simp [hwaiting, hnone]
    rw [Table.lookup_without]
    by_cases ho : other = flow
    · simp [ho, hempty]
    · simp [ho]
  · rw [List.lookup_cons, Table.lookup_without]
    by_cases ho : other = flow
    · simp [ho]
    · have hbeq : (other == flow) = false := by simpa using ho
      simp [ho, hbeq]

@[simp] theorem active_setLane : (s.setLane flow l).active = s.active := rfl

/-- Setting one lane keeps the lanes sound, when the run is on that holds it. -/
private theorem Sound.setLane (h : s.Sound) (hcounts : l.Counts) (active : List (String × Active))
    (hself : (active.lookup flow).map Active.run = l.holder?)
    (hothers : ∀ other, other ≠ flow → active.lookup other = s.active.lookup other) :
    ({ s.setLane flow l with active } : Lanes).Sound := by
  have hlane (other : String) :
      ({ s.setLane flow l with active } : Lanes).lane other = if other = flow then l else s.lane other :=
    lane_setLane hcounts
  refine ⟨fun other => ?_, fun other => ?_⟩
  · rw [hlane]
    split
    · exact hcounts
    · exact h.counts other
  · rw [hlane]
    split
    · next ho => rw [ho]; exact hself
    · next ho => rw [← h.active other]; exact congrArg _ (hothers other ho)

/-- The runs that wait do not matter to the run that is on. -/
private theorem Sound.setWaiting (h : s.Sound) (hcounts : l.Counts) (hholder : l.holder? = (s.lane flow).holder?) :
    (s.setLane flow l).Sound :=
  h.setLane hcounts s.active ((h.active flow).trans hholder.symm) fun _ _ => rfl

theorem lookup_begin (s : Lanes) (flow other : String) (run : Nat) :
    (s.begin flow run).active.lookup other = if other = flow then some ⟨run, false⟩ else s.active.lookup other := by
  unfold begin
  rw [List.lookup_cons, Table.lookup_without]
  by_cases ho : other = flow
  · simp [ho]
  · have hbeq : (other == flow) = false := by simpa using ho
    simp [ho, hbeq]

/-- A run begins that has its lane. -/
private theorem Sound.begin (h : s.Sound) (hcounts : l.Counts) (hholder : l.holder? = some run) :
    ((s.setLane flow l).begin flow run).Sound := by
  refine h.setLane hcounts ((s.setLane flow l).begin flow run).active ?_ ?_
  · rw [lookup_begin, if_pos rfl, hholder]
    rfl
  · intro other ho
    rw [lookup_begin, if_neg ho, active_setLane]

/-! ### What is done to the lanes -/

theorem sound_empty : ({} : Lanes).Sound :=
  ⟨fun _ => rfl, fun _ => rfl⟩

theorem Sound.start (h : s.Sound) (flow : String) (run : Nat) : (s.start flow run).Sound := by
  unfold Lanes.start
  dsimp only
  split
  · next hidle =>
    rw [Bool.and_eq_true, Option.isNone_iff_eq_none] at hidle
    exact h.begin ((h.counts flow).hold hidle.1) rfl
  · exact h.setWaiting (h.counts flow).wait rfl

theorem Sound.acquire (h : s.Sound) (flow : String) : (s.acquire flow).Sound := by
  unfold Lanes.acquire
  dsimp only
  split
  · next run rest hidle hwaiting => exact h.begin ((h.counts flow).next hidle hwaiting) rfl
  · exact h

theorem Sound.finish (h : s.Sound) (flow : String) : (s.finish flow).Sound := by
  unfold Lanes.finish
  dsimp only
  split
  · next run hholder =>
    refine h.setLane ((h.counts flow).leave hholder) _ ?_ fun other ho => ?_
    · rw [active_setLane, Table.lookup_without, if_pos rfl]
      rfl
    · rw [active_setLane, Table.lookup_without, if_neg ho]
  · exact h

theorem Sound.abandon (h : s.Sound) (flow : String) (run : Nat) : (s.abandon flow run).Sound := by
  unfold Lanes.abandon
  dsimp only
  split
  · next hmem => exact h.setWaiting ((h.counts flow).giveUp (by simpa using hmem)) rfl
  · exact h

theorem lookup_cancel (s : Lanes) (flow other : String) : (s.cancel flow).2.active.lookup other =
    (s.active.lookup other).map fun a => if other = flow then { a with cancelled := true } else a := by
  unfold cancel
  dsimp only
  induction s.active with
  | nil => rfl
  | cons e es ih =>
    obtain ⟨k, a⟩ := e
    by_cases ho : other = k
    · subst ho
      by_cases hk : other = flow
      · simp [hk]
      · simp [hk]
    · have hbeq : (other == k) = false := by simpa using ho
      by_cases hk : k = flow
      · simpa [hk, List.lookup_cons, hk ▸ hbeq] using ih
      · simpa [hk, List.lookup_cons, hbeq] using ih

theorem Sound.cancel (h : s.Sound) (flow : String) : (s.cancel flow).2.Sound := by
  refine ⟨h.counts, fun other => (Eq.trans ?_ (h.active other))⟩
  rw [lookup_cancel, Option.map_map]
  refine congrArg (Option.map · _) (funext fun a => ?_)
  dsimp only [Function.comp]
  split
  · rfl
  · rfl

theorem Sound.apply (h : s.Sound) (a : Act) : (a.apply s).Sound := by
  cases a with
  | start flow run => exact h.start flow run
  | acquire flow => exact h.acquire flow
  | finish flow => exact h.finish flow
  | abandon flow run => exact h.abandon flow run
  | cancel flow => exact h.cancel flow

/-- Lanes stay sound whatever is done to them. -/
theorem Sound.after (h : s.Sound) (acts : List Act) : (s.after acts).Sound := by
  induction acts generalizing s with
  | nil => exact h
  | cons a acts ih => exact ih (h.apply a)

/-- The lanes of an engine are sound at any time. -/
theorem sound_after (acts : List Act) : (({} : Lanes).after acts).Sound :=
  sound_empty.after acts

/-! ### One lane at a time -/

/-- The lane of one flow is another one, and the run of that flow that is on. -/
structure Becomes (s t : Lanes) (flow : String) (l : Lane) (active? : Option Active) : Prop where
  lane : ∀ other, t.lane other = if other = flow then l else s.lane other
  active : ∀ other, t.active.lookup other = if other = flow then active? else s.active.lookup other

/-- The run that is on stays when a lane is set. -/
private theorem becomes_setLane (hcounts : l.Counts) :
    Becomes s (s.setLane flow l) flow l (s.active.lookup flow) where
  lane _ := lane_setLane hcounts
  active other := by
    split
    · next ho => rw [ho, active_setLane]
    · rw [active_setLane]

private theorem becomes_begin (hcounts : l.Counts) :
    Becomes s ((s.setLane flow l).begin flow run) flow l (some ⟨run, false⟩) where
  lane _ := lane_setLane hcounts
  active other := by rw [lookup_begin, active_setLane]

theorem becomes_start_of_empty (h : s.lane flow = {}) :
    Becomes s (s.start flow run) flow ⟨some run, [], 1⟩ (some ⟨run, false⟩) := by
  unfold Lanes.start
  rw [h]
  exact becomes_begin rfl

theorem becomes_start_of_busy (hcounts : (s.lane flow).Counts)
    (hbusy : ((s.lane flow).holder?.isNone && (s.lane flow).waiting.isEmpty) = false) :
    Becomes s (s.start flow run) flow
      { s.lane flow with waiting := (s.lane flow).waiting ++ [run], users := (s.lane flow).users + 1 }
      (s.active.lookup flow) := by
  unfold Lanes.start
  dsimp only
  rw [hbusy, if_neg Bool.false_ne_true]
  exact becomes_setLane hcounts.wait

theorem becomes_acquire {rest : List Nat} {n : Nat} (hlane : s.lane flow = ⟨none, run :: rest, n⟩)
    (hcounts : (s.lane flow).Counts) :
    Becomes s (s.acquire flow) flow ⟨some run, rest, n⟩ (some ⟨run, false⟩) := by
  rw [hlane] at hcounts
  unfold Lanes.acquire
  rw [hlane]
  exact becomes_begin (hcounts.next rfl rfl)

theorem becomes_finish {waiting : List Nat} {n : Nat} (hlane : s.lane flow = ⟨some run, waiting, n⟩)
    (hcounts : (s.lane flow).Counts) :
    Becomes s (s.finish flow) flow ⟨none, waiting, n - 1⟩ none := by
  rw [hlane] at hcounts
  unfold Lanes.finish
  rw [hlane]
  refine ⟨fun _ => lane_setLane (hcounts.leave rfl), fun other => ?_⟩
  dsimp only
  rw [Table.lookup_without, active_setLane]

theorem becomes_abandon (hcounts : (s.lane flow).Counts) (hmem : run ∈ (s.lane flow).waiting) :
    Becomes s (s.abandon flow run) flow
      { s.lane flow with waiting := (s.lane flow).waiting.erase run, users := (s.lane flow).users - 1 }
      (s.active.lookup flow) := by
  unfold Lanes.abandon
  dsimp only
  rw [if_pos (by simpa using hmem)]
  exact becomes_setLane (hcounts.giveUp hmem)

theorem becomes_cancel (s : Lanes) (flow : String) :
    Becomes s (s.cancel flow).2 flow (s.lane flow)
      ((s.active.lookup flow).map fun a => { a with cancelled := true }) where
  lane other := by
    split
    · next ho => rw [ho]; rfl
    · rfl
  active other := by
    rw [lookup_cancel]
    split
    · next ho => rw [ho]
    · exact Option.map_id_apply

end Lanes

end IntegrationFlow.Run
