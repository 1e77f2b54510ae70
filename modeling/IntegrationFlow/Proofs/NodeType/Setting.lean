import IntegrationFlow.Proofs.NodeType.Check
import IntegrationFlow.Proofs.Schema.Record

/-!
# Settings that are changed

A configuration that passes the check of its form has no keys but the names of settings, so it can be read field by field
(`Schema.closed_eq_read`). A change of some settings is read in their places, and all other settings stay as they are;
for an error handler this gives the settings with another strategy (`ErrorHandlerConfig.read_merge`).
-/

namespace IntegrationFlow

open Schema

/-- A key that stands in an object is found there. -/
theorem Entries.exists_field?_of_mem {es : Entries} {e : Key × Value} (he : e ∈ es) {name : String}
    (hkey : e.1 = .text name) : ∃ v, Entries.field? name es = some v := by
  induction es with
  | nil => cases he
  | cons d es ih =>
    by_cases hd : d.1.eq (.text name) = true
    · exact ⟨d.2, by simp [field?, find?, hd]⟩
    · have hne : e ≠ d := by
        rintro rfl
        exact hd (Key.eq_text_iff.2 hkey)
      obtain ⟨v, hv⟩ := ih ((List.mem_cons.1 he).resolve_left hne)
      exact ⟨v, by simpa [field?, find?, hd] using hv⟩

namespace Schema

variable {α : Type}

/-- A closed record whose keys are names of its fields in their main spelling is read field by field. -/
theorem closed_eq_read {spellings : List Spelling} {read : Entries → Checked α} {es : Entries}
    (h : ∀ e ∈ es, ∀ key, e.1 = .text key → ∃ s ∈ spellings, s.main = key) :
    closed spellings read es = read es := by
  unfold closed
  dsimp only
  rw [if_pos]
  · cases read es <;> rfl
  · rw [List.isEmpty_iff, List.filterMap_eq_nil_iff]
    intro e he
    cases hkey : e.1 with
    | text key =>
      obtain ⟨s, hs, rfl⟩ := h e he key hkey
      obtain ⟨v, hv⟩ := Entries.exists_field?_of_mem he hkey
      have hused : s.main ∈ spellings.filterMap fun s => (s.find? es).map (·.1) :=
        List.mem_filterMap.2 ⟨s, hs, by rw [Spelling.find?, hv]; rfl⟩
      exact if_pos (List.contains_iff_mem.2 hused)
    | _ => rfl

variable {es new : Entries} {name : String} {default : α} {read : Value → Checked α}

/-- A setting that is changed is read from the change. -/
theorem optionalField_merge_of_some (hdistinct : new.Distinct) {v : Value} (h : Entries.field? name new = some v) :
    optionalField (es.merge new) name default read = (read v).under name := by
  refine optionalField_eq ?_
  rw [Entries.field?_merge hdistinct, h, Option.some_or]

/-- A setting that is not changed, in neither of its spellings, is read as before. -/
theorem optionalField_merge_of_none (hdistinct : new.Distinct) (h : (Spelling.camel name).find? new = none) :
    optionalField (es.merge new) name default read = optionalField es name default read := by
  have hmain : Entries.field? (Spelling.camel name).main new = none := by
    cases hcase : Entries.field? (Spelling.camel name).main new with
    | none => rfl
    | some v =>
      rw [Spelling.find?, hcase] at h
      cases h
  have hother : Entries.field? (Spelling.camel name).other new = none := by
    rw [Spelling.find?, hmain] at h
    exact Option.map_eq_none_iff.1 h
  unfold optionalField spelledField Spelling.find?
  rw [Entries.field?_merge hdistinct, Entries.field?_merge hdistinct, hmain, hother, Option.none_or, Option.none_or]

end Schema

/-! ### Error handlers -/

namespace ErrorHandlerConfig

/-- A change of the strategy, and of how often a node is tried again when that is stated. -/
def changes (strategy : Strategy) (retries? : Option Nat) : Entries :=
  (.text "strategy", .text strategy.name) :: retries?.toList.map fun n => (.text "maxRetries", .int n)

theorem distinct_changes (strategy : Strategy) (retries? : Option Nat) : (changes strategy retries?).Distinct := by
  cases retries? with
  | none => exact List.pairwise_singleton _ _
  | some n => simp [changes, Entries.Distinct, Key.eq_text]

theorem typeProblems_changes (strategy : Strategy) (retries? : Option Nat) :
    Kind.errorHandler.nodeType.typeProblems (changes strategy retries?) = [] := by
  cases retries? <;> cases strategy <;> rfl

/-- The keys of a configuration that passes the check of its form are names of settings. -/
theorem exists_main_of_typeProblems {es : Entries} (h : Kind.errorHandler.nodeType.typeProblems es = []) :
    ∀ e ∈ es, ∀ key, e.1 = .text key → ∃ s ∈ spellings, s.main = key := by
  intro e he key hkey
  have hform := (NodeType.unknownKeys_eq_nil_iff.1
    (List.map_eq_nil_iff.1 (List.append_eq_nil_iff.1 h).1)) e he key hkey
  obtain ⟨x, hx, hname⟩ := List.any_eq_true.1 hform
  have hmem : key ∈ Kind.errorHandler.form.map (·.name) := List.mem_map.2 ⟨x, hx, beq_iff_eq.1 hname⟩
  rw [Kind.form_names] at hmem
  have hspelled : spellings.map (·.main) = Kind.errorHandler.defaults.fields.map (·.1) := rfl
  rw [← hspelled] at hmem
  exact List.mem_map.1 hmem

/-- The settings after a change of the strategy. -/
def withStrategy (c : ErrorHandlerConfig) (strategy : Strategy) (retries? : Option Nat) : ErrorHandlerConfig :=
  { c with strategy := some strategy.name, maxRetries := retries?.getD c.maxRetries }

/-- How often to try again is read from the change, or as before when the change leaves it open. -/
private theorem maxRetries_merge {es : Entries} {default before : Nat} (strategy : Strategy) (retries? : Option Nat)
    (h : optionalField es "maxRetries" default natural = .fits before) :
    optionalField (es.merge (changes strategy retries?)) "maxRetries" default natural =
      .fits (retries?.getD before) := by
  have hdistinct := distinct_changes strategy retries?
  cases retries? with
  | none =>
    rw [optionalField_merge_of_none hdistinct rfl]
    exact h
  | some n =>
    rw [optionalField_merge_of_some hdistinct rfl]
    have hnatural : natural (.int n) = .fits n := by
      have hnonneg : ¬ (n : Int) < 0 := not_lt.2 (Int.natCast_nonneg n)
      simp only [natural, wholeFrom, whole, Checked.andThen, if_neg hnonneg, Checked.map, Int.toNat_natCast]
    rw [hnatural]
    rfl

/-- A changed strategy is read, and all else is read as before. -/
theorem read_merge {es : Entries} {c : ErrorHandlerConfig} (hform : Kind.errorHandler.nodeType.typeProblems es = [])
    (h : Kind.errorHandler.read es = .fits (.errorHandler c)) (strategy : Strategy) (retries? : Option Nat) :
    Kind.errorHandler.read (es.merge (changes strategy retries?)) =
      .fits (.errorHandler (c.withStrategy strategy retries?)) := by
  have hdistinct := distinct_changes strategy retries?
  have hform' := NodeType.typeProblems_merge hdistinct hform (typeProblems_changes strategy retries?)
  -- The other fields are not among the changes and are read as before.
  have hkept {name : String} (hname : name ∈ ["backoffMs", "backoffStrategy", "fallbackValue"]) :
      (Spelling.camel name).find? (changes strategy retries?) = none := by
    fin_cases hname <;> cases retries? <;> rfl
  unfold Kind.read at h ⊢
  dsimp only at h ⊢
  rw [closed_eq_read (exists_main_of_typeProblems hform)] at h
  rw [closed_eq_read (exists_main_of_typeProblems hform')]
  cases hread : read es with
  | refused ps =>
    rw [hread] at h
    cases h
  | fits x =>
    rw [hread] at h
    cases h
    unfold read at hread ⊢
    simp only [Checked.seq_eq_fits_iff, Checked.map_eq_fits_iff] at hread
    obtain ⟨_, ⟨_, ⟨_, ⟨_, ⟨_, _, rfl⟩, m, hm, rfl⟩, b, hb, rfl⟩, k, hk, rfl⟩, v, hv, rfl⟩ := hread
    have hstrategy : optionalField (es.merge (changes strategy retries?)) "strategy" (some "retry") (nullable text) =
        .fits (some strategy.name) := by
      rw [optionalField_merge_of_some hdistinct rfl]
      rfl
    dsimp only
    rw [hstrategy, maxRetries_merge strategy retries? hm, optionalField_merge_of_none hdistinct (hkept (by simp)), hb,
      optionalField_merge_of_none hdistinct (hkept (by simp)), hk,
      optionalField_merge_of_none hdistinct (hkept (by simp)), hv]
    rfl

/-- No field of the form is required, so the form asks only for values of the right kinds. -/
theorem formProblems_eq (es : Entries) :
    Kind.errorHandler.nodeType.formProblems es = Kind.errorHandler.nodeType.typeProblems es := by
  have hoptional : ∀ x ∈ Kind.errorHandler.form, x.required = false := by decide
  unfold NodeType.formProblems NodeType.typeProblems
  refine congrArg _ (List.flatMap_congr fun x hx => ?_)
  rw [FormField.problems, hoptional x hx, Bool.false_and]
  exact if_neg Bool.false_ne_true

theorem typeProblems_of_configProblems {es : Entries} (h : Kind.errorHandler.nodeType.configProblems es = []) :
    Kind.errorHandler.nodeType.typeProblems es = [] := by
  unfold NodeType.configProblems at h
  split at h
  · next hform => rwa [formProblems_eq] at hform
  · cases h

/-- A configuration in which nothing is wrong has nothing wrong with another strategy. -/
theorem configProblems_merge {es : Entries} {c : ErrorHandlerConfig}
    (h : Kind.errorHandler.nodeType.configProblems es = []) (hread : Kind.errorHandler.read es = .fits (.errorHandler c))
    (strategy : Strategy) (retries? : Option Nat) :
    Kind.errorHandler.nodeType.configProblems (es.merge (changes strategy retries?)) = [] := by
  have hform := typeProblems_of_configProblems h
  have hmerged := NodeType.typeProblems_merge (distinct_changes strategy retries?) hform
    (typeProblems_changes strategy retries?)
  have hkind : Kind.errorHandler.nodeType.kind? = some .errorHandler := rfl
  rw [NodeType.configProblems, formProblems_eq, hmerged]
  dsimp only
  rw [hkind]
  dsimp only
  rw [read_merge hform hread]
  rfl

end ErrorHandlerConfig

end IntegrationFlow
