import IntegrationFlow.Proofs.Run.Gate
import IntegrationFlow.Proofs.Run.Serial
import IntegrationFlow.Run.Host

/-!
# A run is on from its first moment to its last one

Nobody but the run itself can end a run that is on, so it stays in the tables of its engine whatever others do
(`Sound.mem_after_others`). Its flow is running all the time, a cancellation finds it (`Begins.on`), and it is cancelled
when somebody has cancelled its flow, and not otherwise (`Begins.isCancelled_iff`).
-/

namespace IntegrationFlow.Run

open Admission (Act)

namespace Admission

variable {s t : Admission} {flow : String} {p : Pending} {a : Act} {acts : List Act} {result : Option Admission}
  {move? : Option Lanes.Act}

/-! ### What others do -/

theorem mem_ofOthers {run : Nat} : a ∈ Act.ofOthers run acts ↔ a ∈ acts ∧ a.run? ≠ some run := by
  simp [Act.ofOthers]

theorem mem_start (h : s.Sound) (flow : String) (hp : p ∈ s.pending) : p ∈ (s.start flow).pending := by
  have harrive : p ∈ (s.arrive (s.newcomer flow)).pending := List.mem_append_left _ hp
  rcases start_cases s flow with heq | ⟨lock, l, heq⟩
  · rw [heq]
    refine List.mem_map.2 ⟨p, harrive, if_neg ?_⟩
    exact Nat.ne_of_lt (h.numbered.below p hp)
  · rw [heq]
    exact harrive

/-- A run stays as it is when others do something. -/
theorem Sound.mem_of_outcome (h : s.Sound) (hp : p ∈ s.pending) (hothers : a.run? ≠ some p.run)
    (houtcome : s.Outcome a result move?) (ht : result = some t) : p ∈ t.pending := by
  -- One that leaves is another one.
  have hstays {q : Pending} {n : Int} {u : Admission} (hleft : Left q n u t) (hu : u.pending = s.pending)
      (hne : q.run ≠ p.run) : p ∈ t.pending := by
    rw [hleft.pending, hu]
    exact List.mem_filter.2 ⟨hp, by simpa using hne.symm⟩
  cases houtcome with
  | start flow =>
    cases ht
    exact mem_start h flow hp
  | begin hq hnext =>
    cases ht
    exact List.mem_map.2 ⟨p, hp, if_neg fun heq => hothers (congrArg some heq.symm)⟩
  | finish hq hon =>
    obtain ⟨u, n, l, hu, hleft, -⟩ := h.step_finish hq hon
    cases hu.symm.trans ht
    exact hstays hleft rfl fun heq => hothers (congrArg some heq)
  | abandon hq hwaits =>
    obtain ⟨u, n, l, hu, hleft, -⟩ := h.step_abandon hq hwaits
    cases hu.symm.trans ht
    exact hstays hleft rfl fun heq => hothers (congrArg some heq)
  | cancel flow =>
    cases ht
    rw [cancel_pending]
    exact hp
  | nothing =>
    cases ht
    exact hp

theorem Sound.mem_after_others (h : s.Sound) (hp : p ∈ s.pending) (hothers : ∀ a ∈ acts, a.run? ≠ some p.run)
    (ht : s.after acts = some t) : p ∈ t.pending := by
  induction acts generalizing s with
  | nil =>
    cases ht
    exact hp
  | cons a acts ih =>
    obtain ⟨u, hu, hsound⟩ := h.apply a
    rw [after_cons, hu, Option.bind_some] at ht
    have hmem := h.mem_of_outcome hp (hothers a List.mem_cons_self) (outcome_apply s a) hu
    exact ih hsound hmem (fun b hb => hothers b (List.mem_cons_of_mem a hb)) ht

/-- A run that is on was cancelled before, or others have cancelled its flow since. -/
theorem Sound.isCancelled_after (h : s.Sound) (hp : p ∈ s.pending) (hon : p.phase.isExecuting = true)
    (hothers : ∀ a ∈ acts, a.run? ≠ some p.run) (ht : s.after acts = some t) :
    t.isCancelled p = true ↔ s.isCancelled p = true ∨ .cancel p.flow ∈ acts := by
  induction acts generalizing s with
  | nil =>
    cases ht
    simp
  | cons a acts ih =>
    obtain ⟨u, hu, hsound⟩ := h.apply a
    rw [after_cons, hu, Option.bind_some] at ht
    have hmem := h.mem_of_outcome hp (hothers a List.mem_cons_self) (outcome_apply s a) hu
    have hstep := h.cancelsOnly_of_outcome (outcome_apply s a) hu p hmem
    rw [ih hsound hmem (fun b hb => hothers b (List.mem_cons_of_mem a hb)) ht, hstep, List.mem_cons]
    simp only [hp, hon, true_and, and_true, or_assoc, eq_comm]

end Admission

/-- What others do at one more moment. -/
theorem Company.acts_concat (c : Company) (run : Nat) (past : List Moment) (m : Moment) :
    c.acts run (past ++ [m]) = c.acts run past ++ Act.ofOthers run (c.during (past ++ [m])) := by
  have htake (k : Nat) (hk : k ∈ List.range past.length) : (past ++ [m]).take (k + 1) = past.take (k + 1) :=
    List.take_append_of_le_length (List.mem_range.1 hk)
  have hall : (past ++ [m]).take (past.length + 1) = past ++ [m] := List.take_of_length_le (by simp)
  unfold acts Act.ofOthers
  rw [List.length_append, List.length_singleton, List.range_succ, List.flatMap_append, List.filter_append,
    List.flatMap_singleton, hall, List.flatMap_congr fun k hk => congrArg c.during (htake k hk)]

/-! ### Runs that begin -/

/-- An engine is sound at any time. -/
theorem Admission.sound_of_after {s : Admission} {acts : List Act} (h : ({} : Admission).after acts = some s) :
    s.Sound := by
  obtain ⟨t, ht, hsound⟩ := sound_empty.after acts
  cases h.symm.trans ht
  exact hsound

/-- A run of a flow begins, and nobody has cancelled it. -/
structure Admitted.Begins (a : Admitted) (flow : String) : Prop where
  sound : a.tables.Sound
  mem : a.run ∈ a.tables.pending
  flow : a.run.flow = flow
  executing : a.run.phase.isExecuting = true
  uncancelled : a.tables.isCancelled a.run = false

namespace Admission

variable {s : Admission} {flow : String} {before : List Act} {admitted : Admitted}

/-- A run that was started is in the tables. -/
theorem exists_newcomer (s : Admission) (flow : String) :
    ∃ p ∈ (s.start flow).pending, p.run = s.started ∧ p.flow = flow := by
  have harrive : s.newcomer flow ∈ (s.arrive (s.newcomer flow)).pending :=
    List.mem_append_right _ (List.mem_singleton_self _)
  rcases start_cases s flow with heq | ⟨lock, l, heq⟩
  · rw [heq]
    exact ⟨_, List.mem_map_of_mem harrive, run_begun, flow_begun⟩
  · rw [heq]
    exact ⟨_, harrive, rfl, rfl⟩

/-- A run that is let in begins. -/
theorem Sound.begins (h : s.Sound) (ha : s.letIn flow before = some admitted) : admitted.Begins flow := by
  have hstart : (s.start flow).Sound := h.step (h.step_start flow)
  obtain ⟨own, hown, hrun, hflow⟩ := exists_newcomer s flow
  unfold letIn at ha
  dsimp only at ha
  split at ha
  · next p hp =>
    cases ha
    obtain ⟨hmem, hp, hon⟩ := of_run?_eq_some hp
    obtain rfl := hstart.numbered.eq_of_run hmem hown (hp.trans hrun.symm)
    refine ⟨hstart, hmem, hflow, hon, Bool.eq_false_iff.2 fun hcancelled => ?_⟩
    -- It was not there before it was started.
    rcases (h.cancelsOnly_of_outcome (.start flow) rfl p hmem).1 hcancelled with ⟨hold, -⟩ | ⟨hcancel, -⟩
    · exact absurd (h.numbered.below p hold) (hrun ▸ Nat.lt_irrefl _)
    · cases hcancel
  · obtain ⟨t, ht, ha⟩ := Option.bind_eq_some_iff.1 ha
    obtain ⟨p, hp, ha⟩ := Option.bind_eq_some_iff.1 ha
    cases ha
    obtain ⟨hmem, hp, hnext⟩ := of_run?_eq_some hp
    obtain ⟨t', ht', hsound⟩ := hstart.after (Act.ofOthers s.started before)
    cases ht.symm.trans ht'
    -- It has waited for its turn.
    have hstays := hstart.mem_after_others hown (fun a ha => hrun ▸ (mem_ofOthers.1 ha).2) ht
    obtain rfl := hsound.numbered.eq_of_run hmem hstays (hp.trans hrun.symm)
    have hbegun : p.begun p.run t.made = { p with phase := .executing t.made } := if_pos rfl
    refine ⟨hsound.step (hsound.step_begin hmem hnext), List.mem_map_of_mem hmem, flow_begun.trans hflow, ?_, ?_⟩
    · rw [hbegun]
      rfl
    · rw [hbegun]
      exact Table.put_self _ _ _

end Admission

namespace Admitted.Begins

variable {a : Admitted} {flow : String} (h : a.Begins flow) {c : Company} {moments : List Moment} {acts : List Act}

omit h in
private theorem run?_ne (hacts : acts <+: c.acts a.run.run moments) : ∀ b ∈ acts, b.run? ≠ some a.run.run :=
  fun _ hb => (Admission.mem_ofOthers.1 (hacts.subset hb)).2

include h

/-- At any time of a run, its flow is running, and a cancellation finds it. -/
theorem on (hacts : acts <+: c.acts a.run.run moments) : ∃ t, a.tables.after acts = some t ∧
    t.isRunning flow = true ∧ (t.cancel flow).1 = true ∧ (t.cancel flow).2.isCancelled a.run = true := by
  obtain ⟨t, ht, hsound⟩ := h.sound.after acts
  have hmem := h.sound.mem_after_others h.mem (run?_ne hacts) ht
  have hrunning := (hsound.isRunning_iff flow).2 ⟨a.run, hmem, h.flow, h.executing⟩
  refine ⟨t, ht, hrunning, (Admission.cancel_fst t flow).trans hrunning, ?_⟩
  rw [hsound.isCancelled_cancel hmem, h.flow, h.executing]
  simp

/-- A run is cancelled when others have cancelled its flow since it has begun. -/
theorem isCancelled_iff (c : Company) (moments : List Moment) :
    a.isCancelled c moments = true ↔ .cancel flow ∈ c.acts a.run.run moments := by
  obtain ⟨t, ht, -⟩ := h.sound.after (c.acts a.run.run moments)
  have hcancelled := h.sound.isCancelled_after h.mem h.executing (run?_ne (List.prefix_refl _)) ht
  rw [h.uncancelled, h.flow] at hcancelled
  unfold isCancelled
  rw [ht]
  simpa using hcancelled

end Admitted.Begins

/-! ### Runs that are hosted -/

/-- What there is to a run that has gone its way through an engine. -/
theorem Engine.of_host {engine : Engine} {s : Admission} {f : Flow} {r : Request} {c : Company} {h : Hosted}
    (hhost : engine.host s f r c = .ok (some h)) :
    s.letIn f.id c.before = some h.admitted ∧ engine.run f (r.among h.admitted c) = .ok h.report := by
  unfold Engine.host at hhost
  unfold Engine.run
  cases hvalid : Validator.ensureValid engine.registry f with
  | error e =>
    rw [hvalid] at hhost
    cases hhost
  | ok findings =>
    rw [hvalid] at hhost
    obtain ⟨admitted, hletIn, hhost⟩ := Option.bind_eq_some_iff.1 (Except.ok.inj hhost)
    obtain ⟨t, -, hhost⟩ := Option.bind_eq_some_iff.1 hhost
    obtain ⟨t', -, hhost⟩ := Option.bind_eq_some_iff.1 hhost
    cases hhost
    exact ⟨hletIn, rfl⟩

/-- A run whose turn has come goes its way through the engine. -/
theorem Engine.exists_host {engine : Engine} {s : Admission} (hs : s.Sound) {f : Flow} (hvalid : f.Valid engine.registry)
    {r : Request} {c : Company} {a : Admitted} (hletIn : s.letIn f.id c.before = some a) :
    ∃ h, engine.host s f r c = .ok (some h) ∧ h.admitted = a ∧ engine.run f (r.among a c) = .ok h.report := by
  obtain ⟨findings, hfindings⟩ := Flow.valid_iff_ensureValid.1 hvalid
  let report := execute ((r.among a c).env engine f) r.openCircuits
  obtain ⟨t, ht, hsound⟩ := (hs.begins hletIn).sound.after (c.acts a.run.run report.moments)
  obtain ⟨t', ht', -⟩ := hsound.apply (.finish a.run.run)
  refine ⟨⟨a, report, t'⟩, ?_, rfl, Engine.run_eq_ok_iff.2 ⟨hvalid, rfl⟩⟩
  unfold Engine.host
  rw [hfindings]
  refine congrArg Except.ok ?_
  rw [hletIn]
  dsimp only [Option.bind_eq_bind, Option.bind_some]
  rw [ht, Option.bind_some, ht']
  rfl

end IntegrationFlow.Run
