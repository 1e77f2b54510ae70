import IntegrationFlow.NodeType.Check
import IntegrationFlow.Proofs.NodeType.Config
import IntegrationFlow.Proofs.Value.Entries

/-!
# Configurations that are updated

A configuration takes in the entries of another one field by field (`Entries.field?_merge`). So nothing is wrong with
the outcome when nothing is wrong with the two (`NodeType.typeProblems_merge`): checking the new entries is enough.
-/

namespace IntegrationFlow

/-- A field of a configuration that takes in another one has no problem that it has in none of the two. -/
theorem FormField.typeProblems_merge (f : FormField) {config new : Entries} (hdistinct : new.Distinct)
    (hconfig : f.typeProblems config = []) (hnew : f.typeProblems new = []) : f.typeProblems (config.merge new) = [] := by
  have hfield := Entries.field?_merge hdistinct f.name config
  cases hcase : Entries.field? f.name new with
  | none =>
    have hvalue : f.valueIn (config.merge new) = f.valueIn config := by
      rw [valueIn, hfield, hcase, Option.none_or, valueIn]
    rw [typeProblems, hvalue]
    exact hconfig
  | some v =>
    have hvalue : f.valueIn (config.merge new) = f.valueIn new := by
      rw [valueIn, hfield, hcase, Option.some_or, valueIn, hcase]
    rw [typeProblems, hvalue]
    exact hnew

/-- No key is unknown exactly when the form has a field for each of them. -/
theorem NodeType.unknownKeys_eq_nil_iff {t : NodeType} {config : Entries} :
    t.unknownKeys config = [] ↔ ∀ e ∈ config, ∀ key, e.1 = .text key → t.form.any (·.name == key) = true := by
  unfold unknownKeys
  rw [List.filterMap_eq_nil_iff]
  refine forall₂_congr fun e _ => ?_
  cases hkey : e.1 with
  | text key => simp
  | _ => simp

/-- A configuration without problems that takes in another one has none. -/
theorem NodeType.typeProblems_merge {t : NodeType} {config new : Entries} (hdistinct : new.Distinct)
    (hconfig : t.typeProblems config = []) (hnew : t.typeProblems new = []) : t.typeProblems (config.merge new) = [] := by
  simp only [typeProblems, List.append_eq_nil_iff, List.map_eq_nil_iff, List.flatMap_eq_nil_iff,
    unknownKeys_eq_nil_iff] at hconfig hnew ⊢
  refine ⟨fun e he key hkey => ?_, fun x hx => x.typeProblems_merge hdistinct (hconfig.2 x hx) (hnew.2 x hx)⟩
  obtain ⟨d, hd, hsame⟩ := Entries.exists_of_mem_merge he
  rcases hd with hd | hd
  · exact hconfig.1 d hd key (hsame.trans hkey)
  · exact hnew.1 d hd key (hsame.trans hkey)

/-- The first configuration of a node of a built-in kind has no problems. -/
theorem Kind.typeProblems_defaults (k : Kind) : k.nodeType.typeProblems k.nodeType.defaultData.config = [] := by
  cases k <;> decide

end IntegrationFlow
