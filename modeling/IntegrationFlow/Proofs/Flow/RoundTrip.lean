import IntegrationFlow.Proofs.Flow.Document
import IntegrationFlow.Store.Basic

/-!
# Flows that are exported

A flow that was imported can be exported, and it is imported again unchanged exactly when all of its floats are finite
(`Flow.importText_exportText_iff`): a float that is not finite is written as null.
-/

namespace IntegrationFlow

open Time

/-- Loading what was saved is importing its export. -/
theorem Store.load_of_save {s t : Store} {f : Flow} (h : s.save f = .ok t) {out : String} (hout : f.exportText = .ok out)
    (r : Registry) (now : Timestamp) : t.load r now f.id = (Flow.importText r now out).mapError .refused := by
  obtain ⟨text, htext, hfile⟩ := file?_save h
  obtain rfl : out = text := Except.ok.inj (hout.symm.trans htext)
  have hname : nameFor f.id = .ok (fileName f.id) := by
    unfold save at h
    unfold nameFor at h ⊢
    split
    · next hproblem =>
      rw [hproblem] at h
      cases h
    · rfl
  unfold load
  rw [hname]
  simp only [bind, Except.bind, hfile]

namespace Flow

variable {r : Registry} {now : Timestamp} {f : Flow}

/-- A flow is imported when its document can be read and its structure is not refused. -/
theorem importText_eq_ok_iff {text : String} :
    importText r now text = .ok f ↔ parse now text = .fits f ∧ refusal? (Validator.checkStructure r f) = none := by
  unfold importText
  cases hparse : parse now text with
  | refused ps => simp
  | fits g =>
    cases hrefusal : refusal? (Validator.checkStructure r g) with
    | some e =>
      simp only [hrefusal, Schema.Checked.fits.injEq, reduceCtorEq, false_iff, not_and]
      rintro rfl
      simp [hrefusal]
    | none =>
      simp only [hrefusal, Except.ok.injEq, Schema.Checked.fits.injEq]
      exact ⟨fun h => ⟨h, h ▸ hrefusal⟩, And.left⟩

/-- JSON can hold what is written of a flow that was read from a JSON text. -/
theorem isJsonWithin_toValue_of_parse {text : String} (h : parse now text = .fits f) :
    f.toValue.IsJsonWithin maxNesting := by
  unfold parse at h
  split at h
  · next v hv =>
    obtain ⟨hjson, hdepth⟩ := Json.isJson_of_parseWithin hv
    exact @isJsonWithin_toValue 194 v now f ⟨hjson, hdepth⟩ h
  · cases h

/-- What is written of a flow that was read from a JSON text can be read again. -/
theorem isJsonWithin_of_parse (hnow : now.IsShown) {text : String} (h : parse now text = .fits f) :
    f.toValue.IsJsonWithin maxNesting ∧ f.createdAt.IsShown ∧ f.updatedAt.IsShown := by
  refine ⟨isJsonWithin_toValue_of_parse h, ?_⟩
  unfold parse at h
  split at h
  · next v hv =>
    obtain ⟨hjson, hdepth⟩ := Json.isJson_of_parseWithin hv
    exact @isShown_of_read 194 v now hnow f ⟨hjson, hdepth⟩ h
  · cases h

/-- What is exported is read as what is written of the flow, with null for each float that is not finite. -/
theorem exists_exportText (h : f.toValue.IsJsonWithin maxNesting) :
    ∃ out, f.exportText = .ok out ∧ ∀ later, parse later out = read later f.toValue.damped := by
  have hwritable := Json.writable_eq h.isJson
  have hparse := Json.parseWithin_pretty h.isJson.damped h.isJson.isFinite_damped
    (h.isJson.depth_damped.trans_le h.depth_le)
  refine ⟨Json.pretty f.toValue.damped, ?_, fun later => ?_⟩
  · unfold exportText toJson
    rw [hwritable]
    rfl
  · unfold parse
    simp only [hparse]

/-- A flow that was imported can be exported; it is imported again, or loaded after it was saved, exactly when all of its
floats are finite. -/
theorem importText_exportText_iff (hnow : now.IsShown) {text : String} (h : importText r now text = .ok f) :
    ∃ out, f.exportText = .ok out ∧
      (∀ later, importText r later out = .ok f ↔ f.toValue.isFinite = true) ∧
      ∀ (s t : Store) later, s.save f = .ok t → (t.load r later f.id = .ok f ↔ f.toValue.isFinite = true) := by
  obtain ⟨hparse, hrefusal⟩ := importText_eq_ok_iff.1 h
  obtain ⟨hf, hcreated, hupdated⟩ := isJsonWithin_of_parse hnow hparse
  obtain ⟨out, hout, hagain⟩ := exists_exportText hf
  have himport (later : Timestamp) : importText r later out = .ok f ↔ f.toValue.isFinite = true := by
    rw [importText_eq_ok_iff, hagain later, and_iff_left hrefusal]
    exact readsIfFinite later hf.isJson hcreated hupdated
  refine ⟨out, hout, himport, fun s t later hsave => ?_⟩
  rw [← himport later, Store.load_of_save hsave hout]
  cases importText r later out <;> simp [Except.mapError]

/-- A document of a flow with one node, which has a number in its configuration. -/
def numberDocument (number : String) : String :=
  "\x7b\"id\": \"f\", \"name\": \"F\", \"nodes\": [\x7b\"id\": \"a\", \"type\": \"transform\", \"data\": " ++
    "\x7b\"config\": \x7b\"x\": " ++ number ++ "\x7d\x7d\x7d]\x7d"

/-- The flow whose number is `0.1` is imported again. -/
theorem importText_exportText_tenth : ∃ f out,
    importText .builtin (Timestamp.ofSeconds 0) (numberDocument "0.1") = .ok f ∧ f.exportText = .ok out ∧
      importText .builtin (Timestamp.ofSeconds 60) out = .ok f := by
  have hshown : (Timestamp.ofSeconds 0).IsShown := ⟨by decide, by decide, by decide⟩
  have hfinite : ((importText .builtin (Timestamp.ofSeconds 0) (numberDocument "0.1")).toOption.map (·.toValue.isFinite)) =
      some true := by
    decide +kernel
  cases h : importText .builtin (Timestamp.ofSeconds 0) (numberDocument "0.1") with
  | error e =>
    rw [h] at hfinite
    cases hfinite
  | ok f =>
    rw [h] at hfinite
    obtain ⟨out, hout, hagain, -⟩ := importText_exportText_iff hshown h
    exact ⟨f, out, rfl, hout, (hagain _).2 (Option.some.inj hfinite)⟩

/-- A number that is too large for a float is lost: importing the export gives another flow. -/
theorem importText_exportText_overflow : ∃ f out g,
    importText .builtin (Timestamp.ofSeconds 0) (numberDocument "1e400") = .ok f ∧ f.exportText = .ok out ∧
      importText .builtin (Timestamp.ofSeconds 0) out = .ok g ∧ f.eq g = false := by
  have hshown : (Timestamp.ofSeconds 0).IsShown := ⟨by decide, by decide, by decide⟩
  have hlost : ((importText .builtin (Timestamp.ofSeconds 0) (numberDocument "1e400")).toOption.bind fun f =>
      (read (Timestamp.ofSeconds 0) f.toValue.damped).toOption.map fun g =>
        (f.eq g, (refusal? (Validator.checkStructure .builtin g)).isNone)) = some (false, true) := by
    decide +kernel
  cases hf : importText .builtin (Timestamp.ofSeconds 0) (numberDocument "1e400") with
  | error e =>
    rw [hf] at hlost
    cases hlost
  | ok f =>
    obtain ⟨out, hout, hagain⟩ := exists_exportText (isJsonWithin_of_parse hshown (importText_eq_ok_iff.1 hf).1).1
    rw [hf] at hlost
    cases hg : read (Timestamp.ofSeconds 0) f.toValue.damped with
    | refused ps =>
      simp [Except.toOption, hg, Schema.Checked.toOption] at hlost
    | fits g =>
      simp only [Except.toOption, Option.bind_some, hg, Schema.Checked.toOption, Option.map_some, Option.some.injEq,
        Prod.mk.injEq, Option.isNone_iff_eq_none] at hlost
      exact ⟨f, out, g, rfl, hout, importText_eq_ok_iff.2 ⟨(hagain _).trans hg, hlost.2⟩, hlost.1⟩

end Flow

end IntegrationFlow
