import Mathlib.Data.String.Basic
import IntegrationFlow.Proofs.Server.Stored

/-!
# The list of stored flows

A store that began empty holds the flow that was saved last under each id, unless it was deleted since (`Held`).
`reflects_after` says that the files are those of these flows, and `flows_of_reflects` that the files are read as these
flows. The flows are then put in order by their times: `list_of_calls` says that none is lost when their times can be
compared and their floats are finite.
-/

namespace IntegrationFlow

open Time

namespace Store

/-- A call to the store. -/
inductive Call where
  | save (f : Flow)
  | load (id : String)
  | delete (id : String)

/-- The call can change what is stored under an id. -/
def Call.Concerns (id : String) : Call → Prop
  | .save f => f.id = id
  | .load _ => False
  | .delete other => other = id

/-- The store after a call; a call that fails leaves it as it is. -/
def perform (s : Store) : Call → Store
  | .save f =>
    match s.save f with
    | .ok t => t
    | .error _ => s
  | .load _ => s
  | .delete id =>
    match s.delete id with
    | .ok (_, t) => t
    | .error _ => s

/-- The store after calls. -/
def after (s : Store) (calls : List Call) : Store :=
  calls.foldl perform s

/-- The flow was saved under an id that can be a key, and no call since has replaced or deleted it. -/
def Held (calls : List Call) (f : Flow) : Prop :=
  keyProblem? f.id = none ∧ ∃ before since, calls = before ++ .save f :: since ∧ ∀ c ∈ since, ¬ c.Concerns f.id

/-- The flows that are saved have been imported. -/
def SavesImported (r : Registry) (calls : List Call) : Prop :=
  ∀ f, .save f ∈ calls → ∃ now text, now.IsShown ∧ Flow.importText r now text = .ok f

variable {r : Registry} {s : Store} {calls : List Call} {c : Call} {f g : Flow}

/-! ### One more call -/

theorem not_held_nil (f : Flow) : ¬ Held [] f := by
  rintro ⟨-, before, since, heq, -⟩
  simp at heq

/-- After one more call a flow is held because it was just saved, or because it was held and the call does not concern it. -/
theorem held_append_iff : Held (calls ++ [c]) f ↔
    (c = .save f ∧ keyProblem? f.id = none) ∨ (¬ c.Concerns f.id ∧ Held calls f) := by
  constructor
  · rintro ⟨hkey, before, since, heq, hsince⟩
    rcases List.eq_nil_or_concat since with rfl | ⟨since', last, rfl⟩
    · have := List.append_inj' heq rfl
      exact .inl ⟨List.singleton_inj.1 this.2, hkey⟩
    · have heq' : calls ++ [c] = (before ++ .save f :: since') ++ [last] := by simpa using heq
      obtain ⟨rfl, hlast⟩ := List.append_inj' heq' rfl
      obtain rfl := List.singleton_inj.1 hlast
      exact .inr ⟨hsince c (by simp), hkey, before, since', rfl, fun d hd => hsince d (by simp [hd])⟩
  · rintro (⟨rfl, hkey⟩ | ⟨hother, hkey, before, since, rfl, hsince⟩)
    · exact ⟨hkey, calls, [], rfl, by simp⟩
    · refine ⟨hkey, before, since ++ [c], by simp, fun d hd => ?_⟩
      rcases List.mem_append.1 hd with hd | hd
      · exact hsince d hd
      · exact List.mem_singleton.1 hd ▸ hother

theorem Held.saved (h : Held calls f) : .save f ∈ calls := by
  obtain ⟨-, before, since, rfl, -⟩ := h
  simp

/-- The files of the store are those of the flows that are held. -/
structure Reflects (calls : List Call) (s : Store) : Prop where
  nodup : (s.files.map (·.1)).Nodup
  mem_files_iff : ∀ name text, (name, text) ∈ s.files ↔
    ∃ f, Held calls f ∧ name = fileName f.id ∧ f.exportText = .ok text

/-- A call about an id that cannot be a key, or about none, changes nothing. -/
theorem Reflects.of_idle (h : Reflects calls s) (hsave : ∀ f : Flow, c = .save f → keyProblem? f.id ≠ none)
    (hidle : ∀ f : Flow, keyProblem? f.id = none → ¬ c.Concerns f.id) : Reflects (calls ++ [c]) s := by
  have hsame (f : Flow) : Held (calls ++ [c]) f ↔ Held calls f := by
    rw [held_append_iff]
    constructor
    · rintro (⟨hc, hkey⟩ | ⟨-, hf⟩)
      · exact absurd hkey (hsave f hc)
      · exact hf
    · exact fun hf => .inr ⟨hidle f hf.1, hf⟩
  refine ⟨h.nodup, fun name text => ?_⟩
  simp only [hsame]
  exact h.mem_files_iff name text

/-- What is left without the file of an id are the files of the flows with other ids. -/
theorem Reflects.mem_filter_iff (h : Reflects calls s) {id name text : String} :
    (name, text) ∈ s.files.filter (·.1 != fileName id) ↔
      ∃ f, (id ≠ f.id ∧ Held calls f) ∧ name = fileName f.id ∧ f.exportText = .ok text := by
  rw [List.mem_filter, h.mem_files_iff, bne_iff_ne]
  constructor
  · rintro ⟨⟨f, hf, rfl, htext⟩, hne⟩
    exact ⟨f, ⟨fun h => hne (congrArg fileName h.symm), hf⟩, rfl, htext⟩
  · rintro ⟨f, ⟨hne, hf⟩, rfl, htext⟩
    exact ⟨⟨f, hf, rfl, htext⟩, fun h => hne (fileName_injective h).symm⟩

theorem Reflects.nodup_filter (h : Reflects calls s) (name : String) :
    ((s.files.filter (·.1 != name)).map (·.1)).Nodup :=
  h.nodup.sublist (List.filter_sublist.map _)

/-- The files follow what is held through one call. -/
theorem Reflects.perform (h : Reflects calls s) (himported : SavesImported r (calls ++ [c])) :
    Reflects (calls ++ [c]) (s.perform c) := by
  cases c with
  | load id => exact h.of_idle (fun _ => nofun) fun _ _ hid => hid
  | delete id =>
    cases hkey : keyProblem? id with
    | some problem =>
      simp only [Store.perform, delete_eq, hkey]
      refine h.of_idle (fun _ => nofun) ?_
      rintro f hf rfl
      simp [hf] at hkey
    | none =>
      simp only [Store.perform, delete_eq, hkey]
      refine ⟨h.nodup_filter _, fun name text => ?_⟩
      simp only [held_append_iff, reduceCtorEq, false_and, false_or, Call.Concerns]
      exact h.mem_filter_iff
  | save g =>
    cases hkey : keyProblem? g.id with
    | some problem =>
      have hsave : s.save g = .error (.badKey problem) := by simp [save, nameFor, hkey, bind, Except.bind]
      simp only [Store.perform, hsave]
      refine h.of_idle (by rintro f ⟨⟩; simp [hkey]) ?_
      intro f hf hid
      simp [show g.id = f.id from hid, hf] at hkey
    | none =>
      obtain ⟨now, document, hnow, himport⟩ := himported g (by simp)
      obtain ⟨out, hout, -⟩ := Flow.importText_exportText_iff hnow himport
      have hsave : s.save g = .ok (s.write (fileName g.id) out) := save_eq_ok_iff.2 ⟨hkey, out, hout, rfl⟩
      simp only [Store.perform, hsave]
      -- The new file takes the place of the one with its name, and all others stay.
      refine ⟨?_, fun name text => ?_⟩
      · rw [write, List.map_append, List.nodup_append]
        refine ⟨h.nodup_filter _, List.nodup_singleton _, ?_⟩
        intro name hname other hother
        obtain ⟨file, hfile, rfl⟩ := List.mem_map.1 hname
        rw [List.map_singleton, List.mem_singleton] at hother
        exact hother ▸ bne_iff_ne.1 (List.mem_filter.1 hfile).2
      · rw [write, List.mem_append, h.mem_filter_iff, List.mem_singleton, Prod.mk.injEq]
        simp only [held_append_iff, Call.save.injEq, Call.Concerns]
        constructor
        · rintro (⟨f, hf, hname, htext⟩ | ⟨rfl, rfl⟩)
          · exact ⟨f, .inr hf, hname, htext⟩
          · exact ⟨g, .inl ⟨rfl, hkey⟩, rfl, hout⟩
        · rintro ⟨f, ⟨rfl, -⟩ | hf, rfl, htext⟩
          · exact .inr ⟨rfl, Except.ok.inj (htext.symm.trans hout)⟩
          · exact .inl ⟨f, hf, rfl, htext⟩

/-- The files of a store that began empty are those of the flows that it holds. -/
theorem reflects_after (himported : SavesImported r calls) : Reflects calls (after {} calls) := by
  induction calls using List.reverseRecOn with
  | nil => exact ⟨List.nodup_nil, fun name text => by simp [after, not_held_nil]⟩
  | append_singleton calls c ih =>
    have hstep := (ih fun f hf => himported f (List.mem_append_left _ hf)).perform himported
    simpa [after] using hstep

/-! ### What is read -/

private theorem lookup_eq_some_iff_mem {files : List (String × String)} (h : (files.map (·.1)).Nodup) {name text : String} :
    files.lookup name = some text ↔ (name, text) ∈ files := by
  induction files with
  | nil => simp
  | cons file files ih =>
    obtain ⟨other, otherText⟩ := file
    obtain ⟨hother, hnodup⟩ := List.nodup_cons.1 h
    by_cases hname : name = other
    · subst hname
      have hnot : (name, text) ∉ files := fun hmem => hother (List.mem_map_of_mem (f := (·.1)) hmem)
      simp [hnot, eq_comm]
    · have hbeq : (name == other) = false := by simpa using hname
      simp [List.lookup_cons, hbeq, hname, ih hnodup]

/-- What is found for each element gives the element back. -/
private theorem map_filterMap_eq_self {α β : Type} {find : α → Option β} {back : β → α} {as : List α}
    (h : ∀ a ∈ as, ∃ b, find a = some b ∧ back b = a) : (as.filterMap find).map back = as := by
  induction as with
  | nil => rfl
  | cons a as ih =>
    obtain ⟨b, hb, hback⟩ := h a List.mem_cons_self
    rw [List.filterMap_cons_some hb, List.map_cons, hback, ih fun a' ha' => h a' (List.mem_cons_of_mem a ha')]

/-- A flow that is held is read from its file as it was saved, if its floats are finite. -/
theorem Reflects.file?_of_held (h : Reflects calls s) (himported : SavesImported r calls) (hf : Held calls f)
    (hfinite : f.toValue.isFinite = true) (later : Timestamp) :
    ((s.file? (fileName f.id)).bind fun text => (Flow.parse later text).toOption) = some f := by
  obtain ⟨now, document, hnow, himport⟩ := himported f hf.saved
  obtain ⟨out, hout, hagain, -⟩ := Flow.importText_exportText_iff hnow himport
  have hparse := (Flow.importText_eq_ok_iff.1 ((hagain later).2 hfinite)).1
  have hfile : s.file? (fileName f.id) = some out :=
    (lookup_eq_some_iff_mem h.nodup).2 ((h.mem_files_iff _ _).2 ⟨f, hf, rfl, hout⟩)
  rw [hfile, Option.bind_some, hparse]
  rfl

/-- The flows that are read are those that are held, in the order of the names of their files. -/
theorem Reflects.flows_eq (h : Reflects calls s) (himported : SavesImported r calls)
    (hfinite : ∀ f, Held calls f → f.toValue.isFinite = true) (later : Timestamp) :
    (s.flows later).map (fun f => fileName f.id) = s.fileNames ∧ ∀ f, f ∈ s.flows later ↔ Held calls f := by
  -- The files are those of the flows that are held, and each is read back as its flow.
  have hname {name : String} : name ∈ s.fileNames ↔ ∃ f, Held calls f ∧ name = fileName f.id := by
    rw [fileNames, (List.mergeSort_perm _ _).mem_iff, List.mem_map]
    constructor
    · rintro ⟨⟨name, text⟩, hfile, rfl⟩
      obtain ⟨f, hf, hname, -⟩ := (h.mem_files_iff _ _).1 hfile
      exact ⟨f, hf, hname⟩
    · rintro ⟨f, hf, rfl⟩
      obtain ⟨now, document, hnow, himport⟩ := himported f hf.saved
      obtain ⟨out, hout, -⟩ := Flow.importText_exportText_iff hnow himport
      exact ⟨_, (h.mem_files_iff _ _).2 ⟨f, hf, rfl, hout⟩, rfl⟩
  have hfilter : s.fileNames.filter isFlowFile = s.fileNames := by
    refine List.filter_eq_self.2 fun name hmem => ?_
    obtain ⟨f, -, rfl⟩ := hname.1 hmem
    exact isFlowFile_fileName f.id
  have hread {f : Flow} (hf : Held calls f) := h.file?_of_held himported hf (hfinite f hf) later
  unfold flows
  rw [hfilter]
  constructor
  · refine map_filterMap_eq_self fun name hmem => ?_
    obtain ⟨f, hf, rfl⟩ := hname.1 hmem
    exact ⟨f, hread hf, rfl⟩
  · intro f
    rw [List.mem_filterMap]
    constructor
    · rintro ⟨name, hmem, hfound⟩
      obtain ⟨g, hg, rfl⟩ := hname.1 hmem
      obtain rfl : g = f := Option.some.inj ((hread hg).symm.trans hfound)
      exact hg
    · exact fun hf => ⟨fileName f.id, hname.2 ⟨f, hf, rfl⟩, hread hf⟩

/-! ### The order of the list -/

theorem fileNames_pairwise (h : (s.files.map (·.1)).Nodup) : s.fileNames.Pairwise (· < ·) := by
  have hle : s.fileNames.Pairwise (· ≤ ·) := by
    have htrans (a b c : String) (hab : decide (a ≤ b) = true) (hbc : decide (b ≤ c) = true) : decide (a ≤ c) = true := by
      simp only [decide_eq_true_eq] at *
      exact le_trans hab hbc
    have htotal (a b : String) : (decide (a ≤ b) || decide (b ≤ a)) = true := by
      simpa using le_total a b
    simpa [fileNames] using List.pairwise_mergeSort htrans htotal (s.files.map (·.1))
  have hnodup : s.fileNames.Nodup := (List.mergeSort_perm _ _).nodup_iff.2 h
  exact (hle.and hnodup).imp fun ⟨hab, hne⟩ => lt_of_le_of_ne hab hne

/-- Flows can be put in order if any two of them can be compared. -/
theorem areComparable_of_forall {fs : List Flow} (h : ∀ f ∈ fs, ∀ g ∈ fs, f.updatedAt.comparable g.updatedAt = true) :
    areComparable fs = true := by
  cases fs with
  | nil => rfl
  | cons f fs =>
    exact List.all_eq_true.2 fun g hg => h f List.mem_cons_self g (List.mem_cons_of_mem f hg)

theorem comparable_of_areComparable {fs : List Flow} (h : areComparable fs = true) (hf : f ∈ fs) (hg : g ∈ fs) :
    f.updatedAt.comparable g.updatedAt = true := by
  cases fs with
  | nil => cases hf
  | cons e fs =>
    have hfirst : ∀ d ∈ e :: fs, e.updatedAt.comparable d.updatedAt = true :=
      List.forall_mem_cons.2 ⟨by simp [Timestamp.comparable], List.all_eq_true.1 h⟩
    have h1 := hfirst f hf
    have h2 := hfirst g hg
    simp only [Timestamp.comparable, beq_iff_eq] at h1 h2 ⊢
    exact h1.symm.trans h2

/-- The flow was changed at least as late as another one. -/
def isAsLate (f g : Flow) : Bool :=
  decide (g.updatedAt.instant ≤ f.updatedAt.instant)

private theorem isAsLate_trans (f g h : Flow) (hfg : isAsLate f g = true) (hgh : isAsLate g h = true) : isAsLate f h = true := by
  simp only [isAsLate, decide_eq_true_eq] at *
  omega

private theorem isAsLate_total (f g : Flow) : (isAsLate f g || isAsLate g f) = true := by
  simp only [isAsLate, Bool.or_eq_true, decide_eq_true_eq]
  omega

/-- Sorting leaves flows of equal times in their order. -/
theorem filter_mergeSort_isAsLate (fs : List Flow) (time : Int) :
    (fs.mergeSort isAsLate).filter (fun f => f.updatedAt.instant == time) =
      fs.filter fun f => f.updatedAt.instant == time := by
  have hequal : (fs.filter fun f => f.updatedAt.instant == time).Pairwise fun f g => isAsLate f g = true := by
    refine List.pairwise_of_forall_mem_list fun f hf g hg => ?_
    have hf := (List.mem_filter.1 hf).2
    have hg := (List.mem_filter.1 hg).2
    simp only [beq_iff_eq] at hf hg
    simp [isAsLate, hf, hg]
  have hsub := (List.sublist_mergeSort isAsLate_trans isAsLate_total hequal List.filter_sublist).filter
    fun f => f.updatedAt.instant == time
  rw [List.filter_filter] at hsub
  simp only [Bool.and_self] at hsub
  exact (hsub.eq_of_length ((List.mergeSort_perm fs isAsLate).filter _).length_eq.symm).symm

/-- The list of a store is refused exactly when two of the flows cannot be compared. -/
theorem list?_eq_none_iff {now : Timestamp} : s.list? now = none ↔
    ∃ f ∈ s.flows now, ∃ g ∈ s.flows now, f.updatedAt.comparable g.updatedAt = false := by
  unfold list?
  dsimp only
  constructor
  · intro h
    by_contra hall
    simp only [not_exists, not_and, Bool.not_eq_false] at hall
    simp [areComparable_of_forall hall] at h
  · rintro ⟨f, hf, g, hg, hfg⟩
    refine if_neg fun hcomparable => ?_
    simp [comparable_of_areComparable hcomparable hf hg] at hfg

/-- A list of flows in the order of the names of their files, sorted by their times: the latest ones stand first, and flows
of equal times stay in the order of the names. -/
theorem pairwise_mergeSort_isAsLate {fs : List Flow} (hnames : (fs.map fun f => fileName f.id).Pairwise (· < ·)) :
    (fs.mergeSort isAsLate).Pairwise (fun f g => g.updatedAt.instant ≤ f.updatedAt.instant) ∧
      (fs.mergeSort isAsLate).Pairwise fun f g =>
        f.updatedAt.instant = g.updatedAt.instant → fileName f.id < fileName g.id := by
  constructor
  · exact (List.pairwise_mergeSort isAsLate_trans isAsLate_total fs).imp fun h => of_decide_eq_true h
  · rw [List.pairwise_iff_forall_sublist]
    intro f g hsub htime
    -- both are among the flows of their time, which sorting has left in their order
    have hfilter := hsub.filter fun e => e.updatedAt.instant == g.updatedAt.instant
    rw [filter_mergeSort_isAsLate] at hfilter
    simp only [List.filter_cons, htime, beq_self_eq_true, if_true, List.filter_nil] at hfilter
    exact List.pairwise_iff_forall_sublist.1 (List.pairwise_map.1 hnames) (hfilter.trans List.filter_sublist)

/-- After any calls to a store that began empty, flows that have been imported being saved, the list of flows is that of
the flows saved last and not deleted since, each once and as it was saved. Those that were changed last stand first, and
flows of equal times in the order of the names of their files. This needs times that can be compared and floats that are
finite. -/
theorem list_of_calls (r : Registry) (calls : List Call) (himported : SavesImported r calls)
    (hcomparable : ∀ f g, Held calls f → Held calls g → f.updatedAt.comparable g.updatedAt = true)
    (hfinite : ∀ f, Held calls f → f.toValue.isFinite = true) (later : Timestamp) :
    ∃ flows, (after {} calls).list? later = some flows ∧ (∀ f, f ∈ flows ↔ Held calls f) ∧ (flows.map (·.id)).Nodup ∧
      flows.Pairwise (fun f g => g.updatedAt.instant ≤ f.updatedAt.instant) ∧
      flows.Pairwise fun f g => f.updatedAt.instant = g.updatedAt.instant → fileName f.id < fileName g.id := by
  have hreflects := reflects_after himported
  obtain ⟨hnames, hheld⟩ := hreflects.flows_eq himported hfinite later
  set fs := (after {} calls).flows later with hfs
  have hsorted : (fs.map fun f => fileName f.id).Pairwise (· < ·) := hnames ▸ fileNames_pairwise hreflects.nodup
  have hperm := List.mergeSort_perm fs isAsLate
  have hlist : (after {} calls).list? later = some (fs.mergeSort isAsLate) :=
    if_pos (areComparable_of_forall fun f hf g hg => hcomparable f g ((hheld f).1 hf) ((hheld g).1 hg))
  have hids : (fs.map (·.id)).Nodup := by
    refine List.Nodup.of_map fileName ?_
    rw [List.map_map]
    exact hsorted.imp ne_of_lt
  exact ⟨_, hlist, fun f => hperm.mem_iff.trans (hheld f), (hperm.map _).nodup_iff.2 hids,
    pairwise_mergeSort_isAsLate hsorted⟩

/-- A document of a flow without nodes, which was changed at some time. -/
def timedDocument (id time : String) : String :=
  "\x7b\"id\": \"" ++ id ++ "\", \"name\": \"F\", \"updatedAt\": \"" ++ time ++ "\"\x7d"

/-- The id and the time of the flow that is imported from such a document, and whether its floats are finite. -/
private def importedFrom (id time : String) : Option (String × Timestamp × Bool) :=
  (Flow.importText .builtin (Timestamp.ofSeconds 0) (timedDocument id time)).toOption.map fun f =>
    (f.id, f.updatedAt, f.toValue.isFinite)

private theorem exists_of_importedFrom {id time : String} {facts : String × Timestamp × Bool}
    (h : importedFrom id time = some facts) :
    ∃ f, Flow.importText .builtin (Timestamp.ofSeconds 0) (timedDocument id time) = .ok f ∧ f.id = facts.1 ∧
      f.updatedAt = facts.2.1 ∧ f.toValue.isFinite = facts.2.2 := by
  obtain ⟨f, hf, rfl⟩ := Option.map_eq_some_iff.1 h
  refine ⟨f, ?_, rfl, rfl, rfl⟩
  cases himport : Flow.importText .builtin (Timestamp.ofSeconds 0) (timedDocument id time) with
  | error e =>
    rw [himport] at hf
    cases hf
  | ok g =>
    rw [himport] at hf
    exact congrArg Except.ok (Option.some.inj hf)

private theorem savesImported_pair {f g : Flow} {id id' time time' : String}
    (hf : Flow.importText .builtin (Timestamp.ofSeconds 0) (timedDocument id time) = .ok f)
    (hg : Flow.importText .builtin (Timestamp.ofSeconds 0) (timedDocument id' time') = .ok g) :
    SavesImported .builtin [.save f, .save g] := by
  have hshown : (Timestamp.ofSeconds 0).IsShown := ⟨by decide, by decide, by decide⟩
  intro e he
  simp only [List.mem_cons, Call.save.injEq, List.not_mem_nil, or_false] at he
  rcases he with rfl | rfl
  · exact ⟨_, _, hshown, hf⟩
  · exact ⟨_, _, hshown, hg⟩

/-- The times of two flows are the same instant, given with different offsets. -/
theorem list_of_sameInstants : ∃ f g flows,
    Flow.importText .builtin (Timestamp.ofSeconds 0) (timedDocument "b" "2024-01-01T00:00:00Z") = .ok f ∧
      Flow.importText .builtin (Timestamp.ofSeconds 0) (timedDocument "a" "2024-01-01T02:00:00+02:00") = .ok g ∧
      (after {} [.save f, .save g]).list? (Timestamp.ofSeconds 0) = some flows ∧
      ∀ e, e ∈ flows ↔ Held [.save f, .save g] e := by
  obtain ⟨f, hf, -, hftime, hffinite⟩ := exists_of_importedFrom
    (by decide +kernel : importedFrom "b" "2024-01-01T00:00:00Z" = some ("b", ⟨1704067200000000, some 0⟩, true))
  obtain ⟨g, hg, -, hgtime, hgfinite⟩ := exists_of_importedFrom
    (by decide +kernel : importedFrom "a" "2024-01-01T02:00:00+02:00" = some ("a", ⟨1704074400000000, some 120⟩, true))
  have hcases {e : Flow} (he : Held [.save f, .save g] e) : e = f ∨ e = g := by simpa using he.saved
  have hcomparable : ∀ d e, Held [.save f, .save g] d → Held [.save f, .save g] e →
      d.updatedAt.comparable e.updatedAt = true := by
    intro d e hd he
    rcases hcases hd with rfl | rfl <;> rcases hcases he with rfl | rfl <;> simp [hftime, hgtime, Timestamp.comparable]
  have hfinite : ∀ e, Held [.save f, .save g] e → e.toValue.isFinite = true := by
    intro e he
    rcases hcases he with rfl | rfl
    · exact hffinite
    · exact hgfinite
  obtain ⟨flows, hlist, hmem, -⟩ := list_of_calls .builtin [.save f, .save g] (savesImported_pair hf hg) hcomparable hfinite
    (Timestamp.ofSeconds 0)
  exact ⟨f, g, flows, hf, hg, hlist, hmem⟩

/-- The offset is known of one of two times only: there is no list. -/
theorem list?_of_mixedTimes : ∃ f g,
    Flow.importText .builtin (Timestamp.ofSeconds 0) (timedDocument "a" "2020-01-01T00:00:00") = .ok f ∧
      Flow.importText .builtin (Timestamp.ofSeconds 0) (timedDocument "b" "2024-01-01T00:00:00Z") = .ok g ∧
      (after {} [.save f, .save g]).list? (Timestamp.ofSeconds 0) = none := by
  obtain ⟨f, hf, hfid, hftime, hffinite⟩ := exists_of_importedFrom
    (by decide +kernel : importedFrom "a" "2020-01-01T00:00:00" = some ("a", ⟨1577836800000000, none⟩, true))
  obtain ⟨g, hg, hgid, hgtime, hgfinite⟩ := exists_of_importedFrom
    (by decide +kernel : importedFrom "b" "2024-01-01T00:00:00Z" = some ("b", ⟨1704067200000000, some 0⟩, true))
  have himported := savesImported_pair hf hg
  have hfheld : Held [.save f, .save g] f := by
    refine ⟨by rw [hfid]; decide, [], [.save g], rfl, ?_⟩
    simp [Call.Concerns, hfid, hgid]
  have hgheld : Held [.save f, .save g] g := ⟨by rw [hgid]; decide, [.save f], [], rfl, by simp⟩
  have hfinite : ∀ e, Held [.save f, .save g] e → e.toValue.isFinite = true := by
    intro e he
    rcases (by simpa using he.saved : e = f ∨ e = g) with rfl | rfl
    · exact hffinite
    · exact hgfinite
  obtain ⟨-, hmem⟩ := (reflects_after himported).flows_eq himported hfinite (Timestamp.ofSeconds 0)
  refine ⟨f, g, hf, hg, list?_eq_none_iff.2 ⟨f, (hmem f).2 hfheld, g, (hmem g).2 hgheld, ?_⟩⟩
  simp [hftime, hgtime, Timestamp.comparable]

end Store

end IntegrationFlow
