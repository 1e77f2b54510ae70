import IntegrationFlow.Run.Admission
import IntegrationFlow.Proofs.Run.Lanes
import Mathlib.Data.List.Nodup

/-!
# Engines let runs in one by one

A flow is in one of three conditions (`Ordered`): the tables of the engine do not know it and it has no runs; its runs
wait for a lock that nobody holds; the run that came first holds the lock and the others wait for it. Whatever happens
to an engine happens to one flow, leaves the others as they are (`Same`) and keeps that flow in one of the three
conditions (`Step`). So an engine stays in order, and never asks a table for a key that it does not have
(`Sound.after`).
-/

namespace IntegrationFlow.Run

/-- A run waits for a lock. -/
structure Pending.Waits (p : Pending) (lock : Nat) : Prop where
  lock : p.lock = lock
  phase : p.phase = .waiting

theorem Pending.Waits.isExecuting {p : Pending} {lock : Nat} (h : p.Waits lock) : p.phase.isExecuting = false := by
  rw [h.phase]
  rfl

namespace Admission

/-- The runs of a flow that have not ended, in the order in which they were started. -/
def runsOf (s : Admission) (flow : String) : List Pending :=
  s.pending.filter (·.flow = flow)

/-- A flow has no runs, and the tables do not know it. -/
structure Idle (s : Admission) (flow : String) : Prop where
  runs : s.runsOf flow = []
  locks : s.locks flow = none
  users : s.users flow = none
  flags : s.flags flow = none

/-- The runs of a flow wait for its lock, which nobody holds. -/
structure Free (s : Admission) (flow : String) (lock : Nat) (waiting : List Pending) : Prop where
  runs : s.runsOf flow = waiting
  ne_nil : waiting ≠ []
  waits : ∀ p ∈ waiting, p.Waits lock
  locks : s.locks flow = some lock
  lockAt : s.lockAt lock = ⟨false, waiting.map Pending.run⟩
  users : s.users flow = some (waiting.length : Int)
  flags : s.flags flow = none

/-- The first run of a flow is on and holds its lock, and the others wait for the lock. -/
structure Held (s : Admission) (flow : String) (lock flag : Nat) (p : Pending) (waiting : List Pending) : Prop where
  runs : s.runsOf flow = p :: waiting
  holds : p.lock = lock
  on : p.phase = .executing flag
  waits : ∀ q ∈ waiting, q.Waits lock
  locks : s.locks flow = some lock
  lockAt : s.lockAt lock = ⟨true, waiting.map Pending.run⟩
  users : s.users flow = some (waiting.length + 1 : Int)
  flags : s.flags flow = some flag

/-- The conditions that a flow can be in. -/
inductive Ordered (s : Admission) (flow : String) : Prop
  | idle (h : s.Idle flow)
  | free {lock : Nat} {waiting : List Pending} (h : s.Free flow lock waiting)
  | held {lock flag : Nat} {p : Pending} {waiting : List Pending} (h : s.Held flow lock flag p waiting)

/-- A flow has the same runs in two engines, which have the same in their tables. -/
structure Alike (flow : String) (s t : Admission) : Prop where
  runs : t.runsOf flow = s.runsOf flow
  locks : t.locks flow = s.locks flow
  users : t.users flow = s.users flow
  flags : t.flags flow = s.flags flow
  lockAt : ∀ l, s.locks flow = some l → t.lockAt l = s.lockAt l

/-- A flow has the same in two engines. -/
structure Same (flow : String) (s t : Admission) : Prop extends Alike flow s t where
  raised : ∀ c, s.flags flow = some c → t.raised c = s.raised c

/-- Runs have their numbers in the order in which they were started. -/
structure Numbered (s : Admission) : Prop where
  increasing : s.pending.Pairwise (·.run < ·.run)
  below : ∀ p ∈ s.pending, p.run < s.started

/-- Every flow is in one of its conditions, and no two flows have a lock or a flag in common. -/
structure Sound (s : Admission) : Prop where
  numbered : s.Numbered
  ordered : ∀ flow, s.Ordered flow
  lock_lt : ∀ {flow l}, s.locks flow = some l → l < s.made
  flag_lt : ∀ {flow c}, s.flags flow = some c → c < s.made
  lock_inj : ∀ {flow other l}, s.locks flow = some l → s.locks other = some l → flow = other
  flag_inj : ∀ {flow other c}, s.flags flow = some c → s.flags other = some c → flow = other

/-- Something happened to one flow: it is in one of its conditions, and a lock or a flag that it did not have before is
a new one. -/
structure Step (flow : String) (s t : Admission) : Prop where
  numbered : t.Numbered
  ordered : t.Ordered flow
  others : ∀ other, other ≠ flow → Same other s t
  made : s.made ≤ t.made
  lock : ∀ l, t.locks flow = some l → s.locks flow = some l ∨ s.made ≤ l ∧ l < t.made
  flag : ∀ c, t.flags flow = some c → s.flags flow = some c ∨ s.made ≤ c ∧ c < t.made

variable {s t u : Admission} {flow other : String} {p q : Pending} {run lock flag : Nat} {waiting : List Pending}

theorem mem_runsOf : p ∈ s.runsOf flow ↔ p ∈ s.pending ∧ p.flow = flow := by
  simp [runsOf]

theorem sound_empty : ({} : Admission).Sound where
  numbered := ⟨List.Pairwise.nil, fun _ h => nomatch h⟩
  ordered _ := .idle ⟨rfl, rfl, rfl, rfl⟩
  lock_lt h := nomatch h
  flag_lt h := nomatch h
  lock_inj h := nomatch h
  flag_inj h := nomatch h

/-! ### What happens to one flow -/

theorem Same.refl (s : Admission) (flow : String) : Same flow s s :=
  ⟨⟨rfl, rfl, rfl, rfl, fun _ _ => rfl⟩, fun _ _ => rfl⟩

theorem Same.trans (h : Same flow s t) (h' : Same flow t u) : Same flow s u where
  runs := h'.runs.trans h.runs
  locks := h'.locks.trans h.locks
  users := h'.users.trans h.users
  flags := h'.flags.trans h.flags
  lockAt l hl := (h'.lockAt l (h.locks.trans hl)).trans (h.lockAt l hl)
  raised c hc := (h'.raised c (h.flags.trans hc)).trans (h.raised c hc)

theorem Idle.of_alike (h : s.Idle flow) (halike : Alike flow s t) : t.Idle flow :=
  ⟨halike.runs.trans h.runs, halike.locks.trans h.locks, halike.users.trans h.users, halike.flags.trans h.flags⟩

theorem Free.of_alike (h : s.Free flow lock waiting) (halike : Alike flow s t) : t.Free flow lock waiting :=
  ⟨halike.runs.trans h.runs, h.ne_nil, h.waits, halike.locks.trans h.locks, (halike.lockAt _ h.locks).trans h.lockAt,
    halike.users.trans h.users, halike.flags.trans h.flags⟩

theorem Held.of_alike (h : s.Held flow lock flag p waiting) (halike : Alike flow s t) :
    t.Held flow lock flag p waiting :=
  ⟨halike.runs.trans h.runs, h.holds, h.on, h.waits, halike.locks.trans h.locks,
    (halike.lockAt _ h.locks).trans h.lockAt, halike.users.trans h.users, halike.flags.trans h.flags⟩

/-- A flow stays in its condition when nothing happens to its runs. -/
theorem Ordered.of_alike (h : s.Ordered flow) (halike : Alike flow s t) : t.Ordered flow := by
  cases h with
  | idle h => exact .idle (h.of_alike halike)
  | free h => exact .free (h.of_alike halike)
  | held h => exact .held (h.of_alike halike)

section Tables

/- One table, of the locks or of the flags, before and after something happened to one flow. -/
variable {before after : String → Option Nat} {made made' : Nat}

private theorem lt_of_table (hmade : made ≤ made') (hlt : ∀ {f l}, before f = some l → l < made)
    (hothers : ∀ other, other ≠ flow → after other = before other)
    (hself : ∀ l, after flow = some l → before flow = some l ∨ made ≤ l ∧ l < made') {f : String} {l : Nat}
    (hf : after f = some l) : l < made' := by
  by_cases hf' : f = flow
  · rcases hself l (hf' ▸ hf) with hold | ⟨-, hnew⟩
    · exact Nat.lt_of_lt_of_le (hlt hold) hmade
    · exact hnew
  · rw [hothers f hf'] at hf
    exact Nat.lt_of_lt_of_le (hlt hf) hmade

private theorem inj_of_table (hlt : ∀ {f l}, before f = some l → l < made)
    (hinj : ∀ {f g l}, before f = some l → before g = some l → f = g)
    (hothers : ∀ other, other ≠ flow → after other = before other)
    (hself : ∀ l, after flow = some l → before flow = some l ∨ made ≤ l ∧ l < made') {f g : String} {l : Nat}
    (hf : after f = some l) (hg : after g = some l) : f = g := by
  -- What the flow has it had before, or it is too new for any other flow.
  have hapart {other : String} (ho : other ≠ flow) (hother : after other = some l) (hflow : after flow = some l) :
      False := by
    rw [hothers other ho] at hother
    rcases hself l hflow with hold | ⟨hnew, -⟩
    · exact ho (hinj hother hold)
    · exact absurd (hlt hother) (by omega)
  by_cases hf' : f = flow
  · by_cases hg' : g = flow
    · rw [hf', hg']
    · exact (hapart hg' hg (hf' ▸ hf)).elim
  · by_cases hg' : g = flow
    · exact (hapart hf' hf (hg' ▸ hg)).elim
    · rw [hothers f hf'] at hf
      rw [hothers g hg'] at hg
      exact hinj hf hg

end Tables

/-- What happens to one flow keeps an engine sound. -/
theorem Sound.step (h : s.Sound) (hstep : Step flow s t) : t.Sound := by
  have hlocks (other : String) (ho : other ≠ flow) : t.locks other = s.locks other := (hstep.others other ho).locks
  have hflags (other : String) (ho : other ≠ flow) : t.flags other = s.flags other := (hstep.others other ho).flags
  refine ⟨hstep.numbered, fun other => ?_, lt_of_table hstep.made h.lock_lt hlocks hstep.lock,
    lt_of_table hstep.made h.flag_lt hflags hstep.flag, inj_of_table h.lock_lt h.lock_inj hlocks hstep.lock,
    inj_of_table h.flag_lt h.flag_inj hflags hstep.flag⟩
  by_cases ho : other = flow
  · rw [ho]
    exact hstep.ordered
  · exact (h.ordered other).of_alike (hstep.others other ho).toAlike

/-! ### What the runs of a flow become -/

theorem Numbered.eq_of_run (h : s.Numbered) (hp : p ∈ s.pending) (hq : q ∈ s.pending) (hrun : p.run = q.run) :
    p = q := by
  have hnodup : (s.pending.map Pending.run).Nodup :=
    List.pairwise_map.2 (h.increasing.imp fun hlt => Nat.ne_of_lt hlt)
  exact List.inj_on_of_nodup_map hnodup hp hq hrun

theorem Numbered.runsOf (h : s.Numbered) : (s.runsOf flow).Pairwise (·.run < ·.run) :=
  h.increasing.filter _

theorem Free.pairwise (h : s.Free flow lock waiting) (hnumbered : s.Numbered) : waiting.Pairwise (·.run < ·.run) :=
  h.runs ▸ hnumbered.runsOf

/-- The run that is on was started before those that wait for it. -/
theorem Held.pairwise (h : s.Held flow lock flag p waiting) (hnumbered : s.Numbered) :
    (∀ q ∈ waiting, p.run < q.run) ∧ waiting.Pairwise (·.run < ·.run) :=
  List.pairwise_cons.1 (h.runs ▸ hnumbered.runsOf)

@[simp] theorem runsOf_setLock (l : Lock) : (s.setLock lock l).runsOf flow = s.runsOf flow := rfl

@[simp] theorem made_arrive : (s.arrive p).made = s.made + 1 := rfl

@[simp] theorem made_begin : (s.begin p).made = s.made + 1 := rfl

theorem runsOf_arrive : (s.arrive p).runsOf flow = s.runsOf flow ++ if p.flow = flow then [p] else [] := by
  unfold runsOf arrive
  rw [List.filter_append]
  simp [List.filter_singleton]

theorem runsOf_begin : (s.begin p).runsOf flow = (s.runsOf flow).map (.begun p.run s.made) := by
  have hflow (q : Pending) : (q.begun p.run s.made).flow = q.flow := by
    unfold Pending.begun
    split
    · rfl
    · rfl
  unfold runsOf begin
  dsimp only
  rw [List.filter_map]
  simp only [Function.comp_def, hflow]

theorem map_begun_of_ne {runs : List Pending} (hne : ∀ q ∈ runs, q.run ≠ run) :
    runs.map (.begun run flag) = runs := by
  refine (List.map_congr_left fun q hq => ?_).trans (List.map_id runs)
  exact if_neg (hne q hq)

/-! ### Flows to which nothing happens -/

theorem same_setLock (l : Lock) (hne : s.locks other ≠ some lock) : Same other s (s.setLock lock l) where
  runs := rfl
  locks := rfl
  users := rfl
  flags := rfl
  lockAt l' hl := Table.put_of_ne (fun heq : l' = lock => hne (heq ▸ hl)) _ _
  raised _ _ := rfl

theorem same_arrive (ho : other ≠ p.flow) (hlt : ∀ l, s.locks other = some l → l < s.made) :
    Same other s (s.arrive p) where
  runs := by rw [runsOf_arrive, if_neg ho.symm, List.append_nil]
  locks := Table.put_of_ne ho _ _
  users := Table.put_of_ne ho _ _
  flags := rfl
  lockAt l hl := Table.put_of_ne (Nat.ne_of_lt (hlt l hl)) _ _
  raised _ _ := rfl

theorem same_begin (ho : other ≠ p.flow) (hlock : s.locks other ≠ some p.lock)
    (hlt : ∀ c, s.flags other = some c → c < s.made) (hruns : ∀ q ∈ s.runsOf other, q.run ≠ p.run) :
    Same other s (s.begin p) where
  runs := by rw [runsOf_begin, map_begun_of_ne hruns]
  locks := rfl
  users := rfl
  flags := Table.put_of_ne ho _ _
  lockAt l hl := Table.put_of_ne (fun heq : l = p.lock => hlock (heq ▸ hl)) _ _
  raised c hc := Table.put_of_ne (Nat.ne_of_lt (hlt c hc)) _ _

/-- The runs that stay when one of them leaves. -/
def without (runs : List Pending) (run : Nat) : List Pending :=
  runs.filter (·.run != run)

theorem without_of_ne {runs : List Pending} (hne : ∀ q ∈ runs, q.run ≠ run) : without runs run = runs := by
  refine List.filter_eq_self.2 fun q hq => ?_
  simpa using hne q hq

theorem map_run_without {runs : List Pending} (hruns : runs.Pairwise (·.run < ·.run)) :
    (without runs run).map Pending.run = (runs.map Pending.run).erase run := by
  have hnodup : (runs.map Pending.run).Nodup := List.pairwise_map.2 (hruns.imp Nat.ne_of_lt)
  rw [hnodup.erase_eq_filter, List.filter_map]
  rfl

theorem length_without {runs : List Pending} (hruns : runs.Pairwise (·.run < ·.run)) (hp : p ∈ runs) :
    (without runs p.run).length + 1 = runs.length := by
  have hmem : p.run ∈ runs.map Pending.run := List.mem_map_of_mem hp
  have hpos := List.length_pos_of_mem hp
  rw [← List.length_map Pending.run, map_run_without hruns, List.length_erase_of_mem hmem, List.length_map]
  omega

theorem mem_of_mem_without {runs : List Pending} (h : q ∈ without runs run) : q ∈ runs :=
  (List.mem_filter.1 h).1

/-- What leaving does to an engine. -/
structure Left (p : Pending) (users : Int) (s t : Admission) : Prop where
  pending : t.pending = without s.pending p.run
  locks : t.locks = if users = 0 then Table.put s.locks p.flow none else s.locks
  users : t.users = Table.put s.users p.flow (if users = 0 then none else some users)
  flags : t.flags = s.flags
  lockAt : t.lockAt = s.lockAt
  raised : t.raised = s.raised
  made : t.made = s.made
  started : t.started = s.started

theorem exists_leave {n : Int} (husers : s.users p.flow = some n) (hlocks : s.locks p.flow = some lock) :
    ∃ t, s.leave p = some t ∧ Left p (n - 1) s t := by
  unfold leave
  rw [husers, hlocks]
  dsimp only [Option.bind_eq_bind, Option.bind_some]
  by_cases hn : n - 1 = 0
  · rw [if_pos hn]
    refine ⟨_, rfl, rfl, ?_, ?_, rfl, rfl, rfl, rfl, rfl⟩
    · rw [if_pos hn]
    · rw [if_pos hn]
  · rw [if_neg hn]
    refine ⟨_, rfl, rfl, ?_, ?_, rfl, rfl, rfl, rfl, rfl⟩
    · rw [if_neg hn]
    · rw [if_neg hn]

theorem Left.runs {n : Int} (h : Left p n s t) : t.runsOf flow = without (s.runsOf flow) p.run := by
  unfold runsOf without
  rw [h.pending, without, List.filter_filter, List.filter_filter]
  simp only [Bool.and_comm]

theorem Left.same {n : Int} (h : Left p n s t) (ho : other ≠ p.flow) (hruns : ∀ q ∈ s.runsOf other, q.run ≠ p.run) :
    Same other s t where
  runs := h.runs.trans (without_of_ne hruns)
  locks := by
    rw [h.locks]
    split
    · exact Table.put_of_ne ho _ _
    · rfl
  users := by rw [h.users, Table.put_of_ne ho]
  flags := by rw [h.flags]
  lockAt _ _ := by rw [h.lockAt]
  raised _ _ := by rw [h.raised]

/-! ### Runs keep their order -/

theorem numbered_arrive (h : s.Numbered) (hrun : p.run = s.started) : (s.arrive p).Numbered where
  increasing := by
    refine List.pairwise_append.2 ⟨h.increasing, List.pairwise_singleton _ _, fun q hq r hr => ?_⟩
    rw [List.mem_singleton.1 hr, hrun]
    exact h.below q hq
  below q hq := by
    rcases List.mem_append.1 hq with hq | hq
    · exact Nat.lt_succ_of_lt (h.below q hq)
    · rw [List.mem_singleton.1 hq, hrun]
      exact Nat.lt_succ_self _

@[simp] theorem run_begun : (p.begun run flag).run = p.run := by
  unfold Pending.begun
  split
  · rfl
  · rfl

@[simp] theorem flow_begun : (p.begun run flag).flow = p.flow := by
  unfold Pending.begun
  split
  · rfl
  · rfl

theorem numbered_begin (h : s.Numbered) : (s.begin p).Numbered where
  increasing := List.pairwise_map.2 (h.increasing.imp fun hlt => by rwa [run_begun, run_begun])
  below q hq := by
    obtain ⟨r, hr, rfl⟩ := List.mem_map.1 hq
    rw [run_begun]
    exact h.below r hr

theorem Left.numbered {n : Int} (h : Left p n s t) (hs : s.Numbered) : t.Numbered where
  increasing := by
    rw [h.pending]
    exact hs.increasing.filter _
  below q hq := by
    rw [h.pending] at hq
    rw [h.started]
    exact hs.below q (mem_of_mem_without hq)

/-! ### A run is started -/

theorem newcomer_eq (hlocks : s.locks flow = some lock) : s.newcomer flow = ⟨s.started, flow, lock, .waiting⟩ := by
  simp [newcomer, hlocks]

theorem Idle.newcomer_eq (h : s.Idle flow) : s.newcomer flow = ⟨s.started, flow, s.made, .waiting⟩ := by
  simp [newcomer, h.locks]

theorem Free.isFree_eq_false (h : s.Free flow lock waiting) : (s.lockAt lock).isFree = false := by
  simp [Lock.isFree, h.lockAt, h.ne_nil]

theorem Held.isFree_eq_false (h : s.Held flow lock flag p waiting) : (s.lockAt lock).isFree = false := by
  simp [Lock.isFree, h.lockAt]

/-- A run that waits for the lock joins those that wait for it. -/
theorem waits_concat (h : ∀ q ∈ waiting, q.Waits lock) (hp : p.Waits lock) : ∀ q ∈ waiting ++ [p], q.Waits lock := by
  intro q hq
  rcases List.mem_append.1 hq with hq | hq
  · exact h q hq
  · rw [List.mem_singleton.1 hq]
    exact hp

/-- A run waits for a lock that others hold or wait for. -/
theorem start_eq_setLock (hlocks : s.locks flow = some lock) (hlt : lock < s.made)
    (hbusy : (s.lockAt lock).isFree = false) :
    s.start flow = (s.arrive (s.newcomer flow)).setLock lock ((s.lockAt lock).wait s.started) := by
  have hlockAt : (s.arrive (s.newcomer flow)).lockAt lock = s.lockAt lock :=
    Table.put_of_ne (Nat.ne_of_lt hlt) _ _
  have hlock : (s.newcomer flow).lock = lock := congrArg Pending.lock (newcomer_eq hlocks)
  unfold start
  dsimp only
  rw [hlock, hlockAt, if_neg (by simp [hbusy])]
  rfl

/-- The first run of a flow begins at once. -/
theorem Idle.start_eq_begin (h : s.Idle flow) :
    s.start flow = (s.arrive (s.newcomer flow)).begin (s.newcomer flow) := by
  have hlock : (s.newcomer flow).lock = s.made := congrArg Pending.lock h.newcomer_eq
  have hlockAt : (s.arrive (s.newcomer flow)).lockAt s.made = {} := Table.put_self _ _ _
  unfold start
  dsimp only
  rw [hlock, hlockAt]
  exact if_pos rfl

theorem Idle.start (h : s.Idle flow) :
    (s.start flow).Held flow s.made (s.made + 1) ⟨s.started, flow, s.made, .executing (s.made + 1)⟩ [] := by
  rw [h.start_eq_begin, h.newcomer_eq]
  refine ⟨?_, rfl, rfl, List.forall_mem_nil _, ?_, ?_, ?_, ?_⟩
  · rw [runsOf_begin, runsOf_arrive, h.runs, if_pos rfl]
    simp [Pending.begun, arrive, setLock]
  · exact Table.put_self _ _ _
  · simp [begin, arrive, setLock, Lock.give]
  · simp [begin, arrive, setLock, h.users]
  · exact Table.put_self _ _ _

theorem Free.start (h : s.Free flow lock waiting) (hlt : lock < s.made) :
    (s.start flow).Free flow lock (waiting ++ [⟨s.started, flow, lock, .waiting⟩]) := by
  rw [start_eq_setLock h.locks hlt h.isFree_eq_false, newcomer_eq h.locks]
  refine ⟨?_, by simp, waits_concat h.waits ⟨rfl, rfl⟩, ?_, ?_, ?_, h.flags⟩
  · rw [runsOf_setLock, runsOf_arrive, h.runs, if_pos rfl]
  · exact Table.put_self _ _ _
  · simp [setLock, Lock.wait, h.lockAt]
  · simp [arrive, setLock, h.users]

theorem Held.start (h : s.Held flow lock flag p waiting) (hlt : lock < s.made) :
    (s.start flow).Held flow lock flag p (waiting ++ [⟨s.started, flow, lock, .waiting⟩]) := by
  rw [start_eq_setLock h.locks hlt h.isFree_eq_false, newcomer_eq h.locks]
  refine ⟨?_, h.holds, h.on, waits_concat h.waits ⟨rfl, rfl⟩, ?_, ?_, ?_, h.flags⟩
  · rw [runsOf_setLock, runsOf_arrive, h.runs, if_pos rfl, List.cons_append]
  · exact Table.put_self _ _ _
  · simp [setLock, Lock.wait, h.lockAt]
  · simp [arrive, setLock, h.users]

theorem Sound.step_start (h : s.Sound) (flow : String) : Step flow s (s.start flow) := by
  have harrive (other : String) (ho : other ≠ flow) : Same other s (s.arrive (s.newcomer flow)) :=
    same_arrive ho fun _ hl => h.lock_lt hl
  have hnumbered : (s.arrive (s.newcomer flow)).Numbered := numbered_arrive h.numbered rfl
  -- A run that waits changes nothing but the lock of its flow.
  have hwaits {lock : Nat} (hlocks : s.locks flow = some lock) (hbusy : (s.lockAt lock).isFree = false)
      (hordered : (s.start flow).Ordered flow) : Step flow s (s.start flow) := by
    have hlt := h.lock_lt hlocks
    rw [start_eq_setLock hlocks hlt hbusy] at hordered ⊢
    refine ⟨⟨hnumbered.increasing, hnumbered.below⟩, hordered, fun other ho => ?_, Nat.le_succ _, fun l hl => .inl ?_,
      fun c hc => .inl hc⟩
    · refine (harrive other ho).trans (same_setLock _ fun hother => ho ?_)
      exact h.lock_inj ((harrive other ho).locks ▸ hother) hlocks
    · simpa [setLock, arrive, newcomer, hlocks] using hl
  cases h.ordered flow with
  | idle hidle =>
    have hheld := hidle.start
    rw [hidle.start_eq_begin] at hheld ⊢
    have hlock : (s.newcomer flow).lock = s.made := congrArg Pending.lock hidle.newcomer_eq
    refine ⟨numbered_begin hnumbered, .held hheld, fun other ho => ?_, ?_, fun l hl => .inr ?_,
      fun c hc => .inr ?_⟩
    · have hsame := harrive other ho
      refine hsame.trans (same_begin ho ?_ (fun c hc => ?_) fun q hq => ?_)
      · rw [hsame.locks, hlock]
        exact fun hother => absurd (h.lock_lt hother) (Nat.lt_irrefl _)
      · exact Nat.lt_succ_of_lt (h.flag_lt (hsame.flags ▸ hc))
      · rw [hsame.runs] at hq
        exact Nat.ne_of_lt (h.numbered.below q (mem_runsOf.1 hq).1)
    · simp only [made_begin, made_arrive]
      omega
    · have heq : s.made = l := by simpa [hheld.locks] using hl
      simp only [made_begin, made_arrive]
      omega
    · have heq : s.made + 1 = c := by simpa [hheld.flags] using hc
      simp only [made_begin, made_arrive]
      omega
  | free hfree =>
    exact hwaits hfree.locks hfree.isFree_eq_false (.free (hfree.start (h.lock_lt hfree.locks)))
  | held hheld =>
    exact hwaits hheld.locks hheld.isFree_eq_false (.held (hheld.start (h.lock_lt hheld.locks)))

/-! ### Where a run is in its flow -/

/-- Where a run is that has not ended: it waits for a lock that nobody holds, it is on, or it waits for the run that is
on. -/
inductive Place (s : Admission) (p : Pending) : Prop
  | waits {waiting : List Pending} (h : s.Free p.flow p.lock waiting) (hmem : p ∈ waiting)
  | on {flag : Nat} {waiting : List Pending} (h : s.Held p.flow p.lock flag p waiting)
  | behind {flag : Nat} {q : Pending} {waiting : List Pending} (h : s.Held p.flow p.lock flag q waiting)
    (hmem : p ∈ waiting)

theorem Sound.place (h : s.Sound) (hp : p ∈ s.pending) : s.Place p := by
  have hmem : p ∈ s.runsOf p.flow := mem_runsOf.2 ⟨hp, rfl⟩
  cases h.ordered p.flow with
  | idle hidle =>
    rw [hidle.runs] at hmem
    cases hmem
  | free hfree =>
    rw [hfree.runs] at hmem
    exact .waits ((hfree.waits p hmem).lock ▸ hfree) hmem
  | held hheld =>
    rw [hheld.runs] at hmem
    rcases List.mem_cons.1 hmem with rfl | hmem
    · exact .on (hheld.holds ▸ hheld)
    · exact .behind ((hheld.waits p hmem).lock ▸ hheld) hmem

/-- A run that has not ended uses the lock of its flow. -/
theorem Sound.locks_of_mem (h : s.Sound) (hp : p ∈ s.pending) : s.locks p.flow = some p.lock := by
  cases h.place hp with
  | waits hfree => exact hfree.locks
  | on hheld => exact hheld.locks
  | behind hheld => exact hheld.locks

/-- The runs of other flows have other numbers and use other locks. -/
theorem Sound.apart (h : s.Sound) (hp : p ∈ s.pending) (ho : other ≠ p.flow) :
    s.locks other ≠ some p.lock ∧ ∀ q ∈ s.runsOf other, q.run ≠ p.run := by
  refine ⟨fun hother => ho (h.lock_inj hother (h.locks_of_mem hp)), fun q hq hrun => ho ?_⟩
  obtain ⟨hmem, hflow⟩ := mem_runsOf.1 hq
  rw [← hflow, h.numbered.eq_of_run hmem hp hrun]

/-- The run that is on is the first one of its flow. -/
theorem Sound.exists_held (h : s.Sound) (hp : p ∈ s.pending) (hon : p.phase.isExecuting = true) :
    ∃ flag waiting, s.Held p.flow p.lock flag p waiting := by
  cases h.place hp with
  | waits hfree hmem =>
    rw [(hfree.waits p hmem).phase] at hon
    cases hon
  | on hheld => exact ⟨_, _, hheld⟩
  | behind hheld hmem =>
    rw [(hheld.waits p hmem).phase] at hon
    cases hon

/-- The run whose turn has come is the first one of its flow, and none of the flow is on. -/
theorem Sound.exists_free (h : s.Sound) (hp : p ∈ s.pending) (hnext : s.canBegin p = true) :
    ∃ waiting, s.Free p.flow p.lock (p :: waiting) := by
  cases h.place hp with
  | @waits waiting hfree =>
    cases waiting with
    | nil => exact absurd rfl hfree.ne_nil
    | cons q waiting =>
      have hq : q ∈ s.runsOf p.flow := hfree.runs ▸ List.mem_cons_self
      have hrun : q.run = p.run := by simpa [canBegin, Lock.isNext, hfree.lockAt] using hnext
      rw [h.numbered.eq_of_run (mem_runsOf.1 hq).1 hp hrun] at hfree
      exact ⟨waiting, hfree⟩
  | on hheld => simp [canBegin, Lock.isNext, hheld.lockAt] at hnext
  | behind hheld => simp [canBegin, Lock.isNext, hheld.lockAt] at hnext

/-! ### A run acquires its lock -/

theorem Free.begin (h : s.Free p.flow p.lock (p :: waiting)) (hnumbered : s.Numbered) :
    (s.begin p).Held p.flow p.lock s.made { p with phase := .executing s.made } waiting := by
  have hruns := List.pairwise_cons.1 (h.pairwise hnumbered)
  refine ⟨?_, rfl, rfl, fun q hq => h.waits q (List.mem_cons_of_mem _ hq), h.locks, ?_, ?_, Table.put_self _ _ _⟩
  · rw [runsOf_begin, h.runs, List.map_cons, map_begun_of_ne fun q hq => Nat.ne_of_gt (hruns.1 q hq)]
    simp [Pending.begun]
  · simp [Admission.begin, setLock, Lock.give, h.lockAt]
  · simpa [Admission.begin, setLock] using h.users

theorem Sound.step_begin (h : s.Sound) (hp : p ∈ s.pending) (hnext : s.canBegin p = true) :
    Step p.flow s (s.begin p) := by
  obtain ⟨waiting, hfree⟩ := h.exists_free hp hnext
  have hheld := hfree.begin h.numbered
  refine ⟨numbered_begin h.numbered, .held hheld, fun other ho => ?_, Nat.le_succ _, fun l hl => .inl hl,
    fun c hc => .inr ?_⟩
  · obtain ⟨hlock, hruns⟩ := h.apart hp ho
    exact same_begin ho hlock (fun c hc => h.flag_lt hc) hruns
  · have heq : s.made = c := by simpa [hheld.flags] using hc
    rw [made_begin]
    omega

/-! ### A run leaves -/

/-- A run leaves a flow of which it was one of the runs. -/
theorem Sound.step_of_left (h : s.Sound) (hp : p ∈ s.pending) {n : Int} (hleft : Left p n t u)
    (hordered : u.Ordered p.flow) (hpending : t.pending = s.pending) (hstarted : t.started = s.started)
    (hmade : t.made = s.made) (hlocks : t.locks = s.locks)
    (hflags : ∀ c, t.flags p.flow = some c → s.flags p.flow = some c)
    (hothers : ∀ other, other ≠ p.flow → Same other s t) : Step p.flow s u := by
  have hnumbered : t.Numbered := ⟨hpending ▸ h.numbered.increasing, hpending ▸ hstarted ▸ h.numbered.below⟩
  refine ⟨hleft.numbered hnumbered, hordered, fun other ho => ?_, ?_, fun l hl => .inl ?_, fun c hc => .inl ?_⟩
  · have hsame := hothers other ho
    exact hsame.trans (hleft.same ho (hsame.runs ▸ (h.apart hp ho).2))
  · exact Nat.le_of_eq (hmade.symm.trans hleft.made.symm)
  · rw [hleft.locks, hlocks] at hl
    split at hl
    · simp at hl
    · exact hl
  · rw [hleft.flags] at hc
    exact hflags c hc

/-- A flow that a run has left and of which no run is on: it has no runs any more, or those that stay wait. -/
theorem Left.idle_or_free (hleft : Left p waiting.length s t) (hruns : without (s.runsOf p.flow) p.run = waiting)
    (hwaits : ∀ q ∈ waiting, q.Waits lock) (hlocks : s.locks p.flow = some lock)
    (hlockAt : s.lockAt lock = ⟨false, waiting.map Pending.run⟩) (hflags : s.flags p.flow = none) :
    waiting = [] ∧ t.Idle p.flow ∨ t.Free p.flow lock waiting := by
  have hrunsOf : t.runsOf p.flow = waiting := hleft.runs.trans hruns
  by_cases hnil : waiting = []
  · subst hnil
    refine .inl ⟨rfl, hrunsOf, ?_, ?_, by rw [hleft.flags, hflags]⟩
    · rw [hleft.locks]
      exact Table.put_self _ _ _
    · rw [hleft.users]
      exact Table.put_self _ _ _
  · have hne : (waiting.length : Int) ≠ 0 := by simpa using hnil
    refine .inr ⟨hrunsOf, hnil, hwaits, ?_, by rw [hleft.lockAt, hlockAt], ?_, by rw [hleft.flags, hflags]⟩
    · rw [hleft.locks, if_neg hne, hlocks]
    · rw [hleft.users, if_neg hne]
      exact Table.put_self _ _ _

theorem Held.finish (h : s.Held p.flow p.lock flag p waiting) (hnumbered : s.Numbered) :
    ∃ t, s.finish p = some t ∧ Left p waiting.length (s.giveBack p ⟨false, waiting.map Pending.run⟩) t ∧
      (waiting = [] ∧ t.Idle p.flow ∨ t.Free p.flow p.lock waiting) := by
  have hruns := h.pairwise hnumbered
  have hstay : without (s.runsOf p.flow) p.run = waiting := by
    rw [h.runs, without, List.filter_cons_of_neg (by simp)]
    exact without_of_ne fun q hq => Nat.ne_of_gt (hruns.1 q hq)
  obtain ⟨t, ht, hleft⟩ :=
    exists_leave (p := p) (s := s.giveBack p ⟨false, waiting.map Pending.run⟩) h.users h.locks
  rw [Int.add_sub_cancel] at hleft
  refine ⟨t, ?_, hleft, hleft.idle_or_free hstay h.waits h.locks (Table.put_self _ _ _)
    (Table.put_self _ _ _)⟩
  simpa [Admission.finish, Lock.release, h.lockAt] using ht

theorem Sound.step_finish (h : s.Sound) (hp : p ∈ s.pending) (hon : p.phase.isExecuting = true) :
    ∃ t n l, s.finish p = some t ∧ Left p n (s.giveBack p l) t ∧ Step p.flow s t := by
  obtain ⟨flag, waiting, hheld⟩ := h.exists_held hp hon
  obtain ⟨t, ht, hleft, hcases⟩ := hheld.finish h.numbered
  have hordered : t.Ordered p.flow := hcases.elim (fun h => .idle h.2) .free
  refine ⟨t, _, _, ht, hleft, h.step_of_left hp hleft hordered rfl rfl rfl rfl (fun c hc => ?_) fun other ho => ?_⟩
  · simp [giveBack] at hc
  · have hlock : Same other s (s.setLock p.lock ⟨false, waiting.map Pending.run⟩) := same_setLock _ (h.apart hp ho).1
    exact ⟨⟨hlock.runs, rfl, rfl, Table.put_of_ne ho _ _, hlock.lockAt⟩, hlock.raised⟩

/-- What giving a run up that waits does to its flow. -/
theorem exists_abandon {held : Bool} {n : Int} (hruns : waiting.Pairwise (·.run < ·.run))
    (hlocks : s.locks p.flow = some p.lock) (hlockAt : s.lockAt p.lock = ⟨held, waiting.map Pending.run⟩)
    (husers : s.users p.flow = some n) :
    ∃ t, s.abandon p = some t ∧
      Left p (n - 1) (s.setLock p.lock ⟨held, (without waiting p.run).map Pending.run⟩) t := by
  unfold Admission.abandon
  rw [hlockAt, Lock.giveUp, map_run_without hruns]
  exact exists_leave husers hlocks

theorem Free.abandon (h : s.Free p.flow p.lock waiting) (hp : p ∈ waiting) (hnumbered : s.Numbered) :
    ∃ t, s.abandon p = some t ∧
      Left p (without waiting p.run).length
        (s.setLock p.lock ⟨false, (without waiting p.run).map Pending.run⟩) t ∧
      (without waiting p.run = [] ∧ t.Idle p.flow ∨ t.Free p.flow p.lock (without waiting p.run)) := by
  have hruns := h.pairwise hnumbered
  obtain ⟨t, ht, hleft⟩ := exists_abandon hruns h.locks h.lockAt h.users
  have hcount : (waiting.length : Int) - 1 = (without waiting p.run).length := by
    have hlength := length_without hruns hp
    omega
  rw [hcount] at hleft
  refine ⟨t, ht, hleft, hleft.idle_or_free ?_ ?_ h.locks (Table.put_self _ _ _) h.flags⟩
  · rw [runsOf_setLock, h.runs]
  · exact fun q hq => h.waits q (mem_of_mem_without hq)

theorem Held.abandon (h : s.Held p.flow p.lock flag q waiting) (hp : p ∈ waiting) (hnumbered : s.Numbered) :
    ∃ t, s.abandon p = some t ∧
      Left p ((without waiting p.run).length + 1)
        (s.setLock p.lock ⟨true, (without waiting p.run).map Pending.run⟩) t ∧
      t.Held p.flow p.lock flag q (without waiting p.run) := by
  have hruns := h.pairwise hnumbered
  obtain ⟨t, ht, hleft⟩ := exists_abandon hruns.2 h.locks h.lockAt h.users
  have hcount : (waiting.length : Int) + 1 - 1 = (without waiting p.run).length + 1 := by
    have hlength := length_without hruns.2 hp
    omega
  have hne : ((without waiting p.run).length : Int) + 1 ≠ 0 := by omega
  rw [hcount] at hleft
  refine ⟨t, ht, hleft, ?_, h.holds, h.on, fun r hr => h.waits r (mem_of_mem_without hr), ?_, ?_, ?_, ?_⟩
  · rw [hleft.runs, runsOf_setLock, h.runs, without, List.filter_cons_of_pos]
    · rfl
    · simpa using Nat.ne_of_lt (hruns.1 p hp)
  · rw [hleft.locks, if_neg hne]
    exact h.locks
  · rw [hleft.lockAt]
    exact Table.put_self _ _ _
  · rw [hleft.users, if_neg hne]
    exact Table.put_self _ _ _
  · rw [hleft.flags]
    exact h.flags

theorem Sound.step_abandon (h : s.Sound) (hp : p ∈ s.pending) (hwaits : p.phase.isExecuting = false) :
    ∃ t n l, s.abandon p = some t ∧ Left p n (s.setLock p.lock l) t ∧ Step p.flow s t := by
  have hstep {n : Int} {l : Lock} {t : Admission} (hleft : Left p n (s.setLock p.lock l) t)
      (hordered : t.Ordered p.flow) : Step p.flow s t :=
    h.step_of_left hp hleft hordered rfl rfl rfl rfl (fun _ hc => hc) fun _ ho => same_setLock l (h.apart hp ho).1
  cases h.place hp with
  | waits hfree hmem =>
    obtain ⟨t, ht, hleft, hcases⟩ := hfree.abandon hmem h.numbered
    exact ⟨t, _, _, ht, hleft, hstep hleft (hcases.elim (fun h => .idle h.2) .free)⟩
  | on hheld =>
    rw [hheld.on] at hwaits
    cases hwaits
  | behind hheld hmem =>
    obtain ⟨t, ht, hleft, hafter⟩ := hheld.abandon hmem h.numbered
    exact ⟨t, _, _, ht, hleft, hstep hleft (.held hafter)⟩

/-! ### Engines stay sound -/

theorem Sound.step_cancel (h : s.Sound) (flow : String) : Step flow s (s.cancel flow).2 := by
  unfold cancel
  split
  · exact ⟨h.numbered, h.ordered flow, fun _ _ => .refl _ _, Nat.le_refl _, fun _ hl => .inl hl, fun _ hc => .inl hc⟩
  · next flag hflag =>
    have halike (other : String) : Alike other s { s with raised := Table.put s.raised flag true } :=
      ⟨rfl, rfl, rfl, rfl, fun _ _ => rfl⟩
    refine ⟨⟨h.numbered.increasing, h.numbered.below⟩, (h.ordered flow).of_alike (halike flow),
      fun other ho => ⟨halike other, fun c hc => Table.put_of_ne (fun heq : c = flag => ho ?_) _ _⟩,
      Nat.le_refl _, fun _ hl => .inl hl, fun _ hc => .inl hc⟩
    exact h.flag_inj hc (heq ▸ hflag)

theorem of_run?_eq_some {can : Pending → Bool} (h : s.run? run can = some p) :
    p ∈ s.pending ∧ p.run = run ∧ can p = true := by
  have hfound := List.find?_some h
  rw [Bool.and_eq_true, beq_iff_eq] at hfound
  exact ⟨List.mem_of_find?_eq_some h, hfound⟩

/-- What is done to the lanes when something happens to an engine. -/
def Act.move (s : Admission) : Act → Option Lanes.Act
  | .start flow => some (.start flow s.started)
  | .acquire run => (s.run? run s.canBegin).map fun p => .acquire p.flow
  | .finish run => (s.run? run (·.phase.isExecuting)).map fun p => .finish p.flow
  | .abandon run => (s.run? run (!·.phase.isExecuting)).map fun p => .abandon p.flow p.run
  | .cancel flow => some (.cancel flow)

/-- What can happen to an engine, with what comes of it and what is done to the lanes: a run is started, begins, ends or
is given up, a run is cancelled, or nothing happens. -/
inductive Outcome (s : Admission) : Act → Option Admission → Option Lanes.Act → Prop
  | start (flow : String) : Outcome s (.start flow) (some (s.start flow)) (some (.start flow s.started))
  | begin {p : Pending} (hp : p ∈ s.pending) (hnext : s.canBegin p = true) :
    Outcome s (.acquire p.run) (some (s.begin p)) (some (.acquire p.flow))
  | finish {p : Pending} (hp : p ∈ s.pending) (hon : p.phase.isExecuting = true) :
    Outcome s (.finish p.run) (s.finish p) (some (.finish p.flow))
  | abandon {p : Pending} (hp : p ∈ s.pending) (hwaits : p.phase.isExecuting = false) :
    Outcome s (.abandon p.run) (s.abandon p) (some (.abandon p.flow p.run))
  | cancel (flow : String) : Outcome s (.cancel flow) (some (s.cancel flow).2) (some (.cancel flow))
  | nothing {a : Act} (hne : ∀ flow, a ≠ .cancel flow) : Outcome s a (some s) none

theorem outcome_apply (s : Admission) (a : Act) : s.Outcome a (a.apply s) (a.move s) := by
  cases a with
  | start flow => exact .start flow
  | cancel flow => exact .cancel flow
  | acquire run =>
    dsimp only [Act.apply, Act.move]
    cases hrun : s.run? run s.canBegin with
    | none => exact .nothing fun _ h => nomatch h
    | some p =>
      obtain ⟨hp, rfl, hnext⟩ := of_run?_eq_some hrun
      exact .begin hp hnext
  | finish run =>
    dsimp only [Act.apply, Act.move]
    cases hrun : s.run? run (·.phase.isExecuting) with
    | none => exact .nothing fun _ h => nomatch h
    | some p =>
      obtain ⟨hp, rfl, hon⟩ := of_run?_eq_some hrun
      exact .finish hp hon
  | abandon run =>
    dsimp only [Act.apply, Act.move]
    cases hrun : s.run? run (!·.phase.isExecuting) with
    | none => exact .nothing fun _ h => nomatch h
    | some p =>
      obtain ⟨hp, rfl, hwaits⟩ := of_run?_eq_some hrun
      exact .abandon hp (by simpa using hwaits)

/-- Whatever happens to an engine happens to one flow, and no key is missing. -/
theorem Sound.step_outcome (h : s.Sound) {a : Act} {result : Option Admission} {move? : Option Lanes.Act}
    (houtcome : s.Outcome a result move?) : ∃ t, result = some t ∧ (t = s ∨ ∃ flow, Step flow s t) := by
  cases houtcome with
  | start flow => exact ⟨_, rfl, .inr ⟨flow, h.step_start flow⟩⟩
  | @begin p hp hnext => exact ⟨_, rfl, .inr ⟨p.flow, h.step_begin hp hnext⟩⟩
  | @finish p hp hon =>
    obtain ⟨t, n, l, ht, -, hstep⟩ := h.step_finish hp hon
    exact ⟨t, ht, .inr ⟨p.flow, hstep⟩⟩
  | @abandon p hp hwaits =>
    obtain ⟨t, n, l, ht, -, hstep⟩ := h.step_abandon hp hwaits
    exact ⟨t, ht, .inr ⟨p.flow, hstep⟩⟩
  | cancel flow => exact ⟨_, rfl, .inr ⟨flow, h.step_cancel flow⟩⟩
  | nothing => exact ⟨s, rfl, .inl rfl⟩

theorem Sound.apply (h : s.Sound) (a : Act) : ∃ t, a.apply s = some t ∧ t.Sound := by
  obtain ⟨t, ht, rfl | ⟨flow, hstep⟩⟩ := h.step_outcome (outcome_apply s a)
  · exact ⟨t, ht, h⟩
  · exact ⟨t, ht, h.step hstep⟩

theorem after_cons (a : Act) (acts : List Act) : s.after (a :: acts) = (a.apply s).bind (·.after acts) :=
  rfl

/-- An engine stays sound whatever happens to it. -/
theorem Sound.after (h : s.Sound) (acts : List Act) : ∃ t, s.after acts = some t ∧ t.Sound := by
  induction acts generalizing s with
  | nil => exact ⟨s, rfl, h⟩
  | cons a acts ih =>
    obtain ⟨t, ht, hsound⟩ := h.apply a
    rw [after_cons, ht]
    exact ih hsound

end Admission

end IntegrationFlow.Run
